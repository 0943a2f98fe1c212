import StaticSite.Proofs.Disk.Reach
import StaticSite.Proofs.Site.Affected
import StaticSite.Proofs.Site.Delivery
import StaticSite.Proofs.Site.Keeping
import StaticSite.Proofs.Site.Settled
import StaticSite.Proofs.Site.Walk

/-!
# Builds write below the distribution directory

Whatever is built, on whatever disk and from whatever working directory, and whether it succeeds or
fails: files are only written below the distribution directory, and folders are only made below it or
where its own path leads. A view may be named by a walk, by the spelling of a change or by the view that
owns the change; in each case it lies within the views directory, and this is all that its page needs to
end up below the distribution directory. The options are asked for again and again while the build writes,
perhaps next to the settings; that they stay is part of the invariant.

## Main definitions

* `Containable`: the worlds whose builds are contained.
* `World.Contained`: what the builds of such a world may change.
* `World.Watched`: what watching may change.

## Main results

* `Containable.buildView`: building what lies within the views directory is contained.
* `Containable.walkAt`: a walk from within the views directory is contained.
* `build_contained`: every build, walk, rebuild and event is contained.
* `not_contained`: it need not be if a path leads through a directory that is not there.
-/

namespace StaticSite

open Path Running

/-! ### Worlds whose builds are contained -/

/-- A world whose options load, from settings that are settled, and whose views directory is not named
like a view. -/
structure Containable (d : Disk) (configDir : String) (opts : Options) : Prop where
  /-- The disk is a tree. -/
  wellFormed : d.WellFormed
  /-- The working directory begins at the root. -/
  cwd : isAbsolute d.cwd = true
  /-- The options load. -/
  options : StaticSite.options d configDir = .ok opts
  /-- The path of the configuration directory leaves no directory that does not exist; in its canonical
  spelling it leaves none. -/
  settled : d.Settled configDir
  /-- The views directory is not named like a view. -/
  views : ∀ c, (place opts.views).getLast? = some c → hasEnding c templateExt = false

/-- A place below a directory that is named like a page. -/
def IsPagePlace (dist : String) (q : Place) : Prop :=
  place dist <+: q ∧ ∃ c, IsName c ∧ hasEnding c templateExt = true ∧ q.getLast? = some (pageFile c)

/-- A later world of a build: folders were made where the path of the distribution directory leads or
below it, pages were written below it, and the project is the same. -/
structure World.Later (opts : Options) (w w' : World) : Prop where
  /-- The disk has grown. -/
  disk : Disk.Grown (fun q => place opts.dist <+: q ∨ Leads opts.dist q) (IsPagePlace opts.dist)
    w.disk w'.disk
  /-- The project is the same. -/
  project : w'.project = w.project

variable {w : World} {opts : Options} {path : String}

/-- Being later is said of the disk and the project. -/
theorem World.Later.blind (opts : Options) (w : World) : Blind (w.Later opts) :=
  fun _ _ h hdisk hproject => ⟨hdisk ▸ h.disk, hproject.trans h.project⟩

/-- A page is not named like a settings file. -/
theorem IsPagePlace.getLast?_ne {dist : String} {q : Place} (h : IsPagePlace dist q) {file : String}
    (hhtml : ¬['.', 'h', 't', 'm', 'l'] <:+ file.toList) (htemplate : ¬['.', 'j', '2'] <:+ file.toList) :
    q.getLast? ≠ some file := by
  obtain ⟨-, c, hc, hending, hlast⟩ := h
  rw [hlast]
  exact fun heq => pageFile_ne hc hending hhtml htemplate (Option.some.inj heq)

namespace Containable

variable (hw : Containable w.disk w.project.configDir opts)
include hw

/-- The options stay, if they load. -/
theorem options_later {w' : World} {opts' : Options} (h : w.Later opts w')
    (hopts : StaticSite.options w'.disk w'.project.configDir = .ok opts') : opts' = opts := by
  rw [h.project] at hopts
  rcases options_of_grown h.disk hw.wellFormed hw.settled fun q hq =>
    ⟨hq.getLast?_ne (by decide) (by decide), hq.getLast?_ne (by decide) (by decide)⟩ with hsame | ⟨⟨e, he⟩, -⟩
  · rw [hsame, hw.options] at hopts
    exact (Except.ok.inj hopts).symm
  · rw [he] at hopts
    exact absurd hopts (by simp)

/-- Asking for the options gives the options. -/
theorem currentOptions : Ensures (w.Later opts) currentOptions (· = opts) :=
  Ensures.currentOptions.mono fun _ ⟨_, h, hopts⟩ => hw.options_later h hopts

/-- The views directory is seen as it is from everywhere. -/
theorem placeFrom_views : placeFrom w.disk.cwd opts.views = place opts.views :=
  placeFrom_of_isAbsolute (isAbsolute_of_options hw.cwd hw.options).2 _

/-! ### Writing a page -/

/-- Making the folders above a page below the distribution directory is contained. -/
theorem makeFolders {names : List String} (hnames : ∀ c ∈ names, IsName c) :
    Ensures (w.Later opts) (makeFolders (directoryOf (below opts.dist names))) fun _ => True := by
  have habsolute := isAbsolute_below (isAbsolute_of_options hw.cwd hw.options).1 names
  intro w₁ h
  rw [makeFolders_apply, Disk.directoryOf_eq habsolute]
  have hgrown := Disk.grown_makeFolders (h.disk.wellFormed hw.wellFormed) (isAbsolute_parent habsolute)
  revert hgrown
  rcases w₁.disk.makeFolders (parent (below opts.dist names)) with ⟨made, r⟩
  intro hgrown
  have hbelow : Disk.Grown (fun q => place opts.dist <+: q ∨ Leads opts.dist q)
      (IsPagePlace opts.dist) w₁.disk made :=
    hgrown.mono (fun _ _ hq => (hq.of_parent.of_below hnames).symm) fun _ => False.elim
  exact ⟨⟨h.disk.trans hbelow, h.project⟩, fun _ _ => True.intro⟩

/-- Writing a page below the distribution directory is contained. -/
theorem writeText {init : List String} {c : String} (hnames : ∀ x ∈ init ++ [pageFile c], IsName x)
    (hc : IsName c) (hending : hasEnding c templateExt = true) (text : String) :
    Ensures (w.Later opts) (writeText (below opts.dist (init ++ [pageFile c])) text)
      fun _ => True := by
  have habsolute := isAbsolute_below (isAbsolute_of_options hw.cwd hw.options).1 (init ++ [pageFile c])
  intro w₁ h
  rw [writeText_apply]
  rcases hwrite : w₁.disk.writeText (below opts.dist (init ++ [pageFile c])) text with e | d
  · exact ⟨h, fun _ _ => True.intro⟩
  · have hgrown := Disk.grown_writeText (h.disk.wellFormed hw.wellFormed) habsolute hwrite
    refine ⟨⟨h.disk.trans (hgrown.mono (fun _ _ => False.elim) fun q hq => ?_), h.project⟩,
      fun _ _ => True.intro⟩
    rw [hq, place_below _ hnames]
    refine ⟨List.prefix_append _ _, c, hc, hending, ?_⟩
    rw [← List.append_assoc, List.getLast?_concat]

/-- Building what lies within the views directory is contained. -/
theorem buildView (hpath : place opts.views <+: placeFrom w.disk.cwd path) :
    Ensures (w.Later opts) (buildView path) fun _ => True := by
  have hI := World.Later.blind opts w
  refine .bind hw.currentOptions fun opts' hopts' => ?_
  rw [hopts']
  refine .ite (fun _ => .pure True.intro) fun hending => .bind (hI.compile _) fun data _ => ?_
  refine .bind (P := fun _ => True) ?_ fun target _ => ?_
  · cases data with
    | none => exact .bind (hI.report _) fun _ _ => .pure True.intro
    | some text =>
      refine .bind (hI.orReport _ _ hw.currentOptions) fun asked hasked => ?_
      cases asked with
      | none => exact .pure True.intro
      | some asked =>
        rw [hasked asked rfl]
        refine .bind .get fun w₁ h => ?_
        have hcwd : w₁.disk.cwd = w.disk.cwd := h.disk.cwd
        rw [ext_of_options hw.options] at hending
        -- the page is below the distribution directory
        have hext : opts.layout.ext = templateExt := ext_of_options hw.options
        have hdist : isAbsolute opts.layout.dist = true := (isAbsolute_of_options hw.cwd hw.options).1
        have hwithin : placeFrom w.disk.cwd opts.layout.views <+: placeFrom w.disk.cwd path :=
          hw.placeFrom_views.symm ▸ hpath
        obtain ⟨init, c, hnames, hc, hname, hdestination⟩ :=
          Layout.destination_within hext hw.cwd hdist (by simpa using hending) hwithin
            (hw.placeFrom_views.symm ▸ hw.views)
        rw [hcwd, hdestination]
        refine .bind (.ofExcept _) ?_
        rintro _ ⟨⟩
        refine .bind (hI.orReport _ _ (P := fun _ => True) ?_) fun written _ => ?_
        · refine .bind (hw.makeFolders hnames) fun _ _ => .bind (.ofExcept _) fun page _ => ?_
          exact hw.writeText hnames hc hname page
        · cases written with
          | none => exact .pure True.intro
          | some _ => exact .bind (hI.report _) fun _ _ => .pure True.intro
  · cases target with
    | none => exact .pure True.intro
    | some page =>
      refine .bind .get fun w₁ _ => .ite (fun _ => ?_) fun _ => .pure True.intro
      exact .bind (hI.auditPage page) fun _ _ => .pure True.intro

/-! ### Walking -/

omit hw in
/-- The path of an entry of a directory lies within the directory, also if the entry is taken for a path
seen from the working directory. -/
theorem prefix_of_entryPath {cwd entry base : String} (hcwd : isAbsolute cwd = true)
    (hentry : IsName entry) (h : entryPath cwd entry base = .ok path) :
    placeFrom cwd base <+: placeFrom cwd path := by
  have hempty : entry.isEmpty = false := by
    rw [Bool.eq_false_iff, ne_eq, String.isEmpty_iff]
    exact hentry.ne_empty
  unfold entryPath within at h
  simp only [hempty, Bool.false_eq_true, if_false] at h
  rcases hwithin : isWithin cwd entry base with _ | _
  · simp only [hwithin] at h
    rw [← Except.ok.inj h, placeFrom_join_name hentry]
    exact List.prefix_append _ _
  · simp only [hwithin] at h
    rw [← Except.ok.inj h]
    exact (isWithin_iff hcwd entry base).mp hwithin

/-- A walk from within the views directory is contained. The induction is on the number of nested
directories: an entry of a directory within the views directory lies within it again. -/
theorem walkAt (n : Nat) {entry : String} {base : Option String}
    (hentry : ∀ p, entryPath w.disk.cwd entry (walkBase opts base) = .ok p →
      place opts.views <+: placeFrom w.disk.cwd p) :
    Ensures (w.Later opts) (walkAt n entry base) fun _ => True := by
  have hI := World.Later.blind opts w
  induction n generalizing entry base with
  | zero => exact .throw _
  | succ n ih =>
    refine .bind hw.currentOptions fun opts' hopts' => ?_
    rw [hopts']
    refine .bind .get fun w₁ h₁ => .bind (.ofExcept _) fun p hp => ?_
    have hpath : place opts.views <+: placeFrom w.disk.cwd p := by
      refine hentry p ?_
      rw [← hp, h₁.disk.cwd]
      cases base <;> rfl
    refine .ite (fun _ => .bind (hw.buildView hpath) fun _ _ => .pure True.intro) fun _ => ?_
    refine .bind .get fun w₂ _ => .ite (fun _ => ?_) fun _ => .bind .get fun w₃ h₃ => ?_
    · exact .bind (hI.detail _) fun _ _ => .pure True.intro
    rcases hlist : w₃.disk.list p with e | children
    · exact .ite (fun _ => .bind (hI.report _) fun _ _ => .pure True.intro) fun _ => .throw e
    · refine .bind (.mapM (Q := fun _ => True) fun child hchild => ih ?_) fun _ _ => .pure True.intro
      have hname := (Disk.entryName_of_mem_list (h₃.disk.wellFormed hw.wellFormed) hlist
        (List.mem_reverse.mp hchild)).toIsName
      intro q hq
      refine List.IsPrefix.trans ?_ (prefix_of_entryPath hw.cwd hname hq)
      rw [walkBase]
      split
      · exact hw.placeFrom_views.symm ▸ List.prefix_refl _
      · exact hpath

/-- The walk of the views directory is contained. -/
theorem walk : Ensures (w.Later opts) (walk opts.views none) fun _ => True := by
  have hviews := (isAbsolute_of_options hw.cwd hw.options).2
  refine .bind .get fun _ _ => hw.walkAt _ fun p hp => ?_
  rw [walkBase, entryPath_within hw.cwd hviews hviews (List.prefix_refl _)] at hp
  obtain rfl := Except.ok.inj hp
  exact hw.placeFrom_views.symm ▸ List.prefix_refl _

/-! ### Building after a change -/

/-- Building what a change affects is contained, whatever the change is. -/
theorem rebuild (changed : String) (views : List String) :
    Ensures (w.Later opts) (rebuild changed views) fun _ => True := by
  have hI := World.Later.blind opts w
  refine .bind hw.currentOptions fun opts' hopts' => ?_
  rw [hopts']
  refine .bind .get fun w₁ h₁ => .ite (fun _ => hw.walk) fun _ => .bind (hI.report _) fun _ _ => ?_
  refine .bind .get fun w₂ h₂ => .bind (.ofExcept _) fun a ha => .bind (hI.detail _) fun _ _ => ?_
  rw [h₂.disk.cwd] at ha
  rw [ext_of_options hw.options] at ha
  have htarget := prefix_of_classify hw.cwd ha
  rw [hw.placeFrom_views] at htarget
  split
  · next hextent =>
    rw [classify_walk ha hextent]
    exact hw.walk
  · exact .bind (hw.buildView htarget) fun _ _ => .pure True.intro

/-- What a handler does about a change is contained. -/
theorem onEvent (h : Handler) (e : Event) : Ensures (w.Later opts) (h.onEvent e) fun _ => True := by
  have hI := World.Later.blind opts w
  have hcounts : ∀ file, Ensures (w.Later opts) (h.shouldRebuild file e.time) fun _ => True := by
    intro file
    refine .bind .currentOptions fun _ _ => .bind (.ofExcept _) fun globs _ => ?_
    refine .bind (.ofExcept _) fun matched _ => .ite (fun _ => .pure True.intro) fun _ => ?_
    split
    · exact .pure True.intro
    · exact .pure True.intro
  refine .ite (fun _ => .pure True.intro) fun _ => .bind (hcounts _).attempt fun counts _ => ?_
  split
  · exact .throw _
  · exact .bind (hI.report _) fun _ _ => .pure True.intro
  · exact .pure True.intro
  · refine .bind (hw.rebuild _ _).attempt fun built _ => ?_
    split
    · exact .pure True.intro
    · exact .throw _
    · exact .bind (hI.report _) fun _ _ => .pure True.intro

/-- Building the site once is contained. -/
theorem build : Ensures (w.Later opts) (build false) fun _ => True := by
  have hI := World.Later.blind opts w
  refine .bind hw.currentOptions fun opts' hopts' => ?_
  rw [hopts']
  refine .bind .get fun w₁ _ => .ite (fun _ => .bind (hI.report _) fun _ _ => .throw _) fun _ => ?_
  refine .bind .get fun w₂ _ => .bind (.ofExcept _) fun views _ => ?_
  exact .bind hw.walk fun _ _ => .bind (hI.report _) fun _ _ => .pure True.intro

end Containable

/-! ### What may change -/

/-- Files change only below the distribution directory, and folders are made only below it or where a
leading part of its path leads; these are above it or itself if every `..` in its path leaves a folder
that exists. -/
structure Disk.WritesBelow (dist : String) (d d' : Disk) : Prop where
  /-- A file changes only below the distribution directory. -/
  file : ∀ p, d'.fileAt? p ≠ d.fileAt? p → place dist <+: p
  /-- A folder is made only below the distribution directory or on the way to it. -/
  folder : ∀ p, d'.get? p = some .folder → d.get? p ≠ some .folder → place dist <+: p ∨ Leads dist p
  /-- If its path leaves only folders that exist, the way to it is what is above it. -/
  above : d.Steady [] (cuts dist) → ∀ p, d'.get? p = some .folder → d.get? p ≠ some .folder →
    place dist <+: p ∨ p <+: place dist

/-- A later world of a build has changed only below the distribution directory. -/
theorem World.Later.writesBelow {w' : World} (hd : w.disk.WellFormed) (h : w.Later opts w') :
    w.disk.WritesBelow opts.dist w'.disk := by
  have hfolder : ∀ p, w'.disk.get? p = some .folder → w.disk.get? p ≠ some .folder →
      place opts.dist <+: p ∨ Leads opts.dist p := fun p hp hne => (h.disk.folder_of hp).resolve_left hne |>.2
  refine ⟨fun p hp => ?_, hfolder, fun hsteady p hp hne => ?_⟩
  · by_contra hno
    exact hp (h.disk.fileAt?_eq fun hq => hno hq.1)
  · exact (hfolder p hp hne).imp_right fun hleads => hleads.prefix_of_steady hd hsteady hne

/-! ### Watching -/

/-- The disk once something has happened on it. -/
def Disk.after (d : Disk) (e : Event) : Disk := e.writes.foldl (fun d (p, entry) => d.put p entry) d

/-- What watching comes to: of the changes to be reported, some happen one after the other, and what is
done about each of them is contained if the world is one whose builds are by then. -/
inductive World.Watched : List Event → World → World → Prop
  /-- Nothing more is done. -/
  | stop {events : List Event} {w w' : World} (disk : w'.disk = w.disk) : Watched events w w'
  /-- A change happens and is reported, and watching goes on. -/
  | next {e : Event} {events : List Event} {w w₁ w₂ : World}
      (first : ∀ opts, Containable (w.disk.after e) w.project.configDir opts →
        (w.disk.after e).WritesBelow opts.dist w₁.disk)
      (rest : Watched events w₁ w₂) : Watched (e :: events) w w₂

namespace World.Watched

variable {events : List Event} {w w' v v' : World}

/-- Watching is said of the disk and the project. -/
theorem congr (h : Watched events w w') (hdisk : v.disk = w.disk) (hproject : v.project = w.project)
    (hdisk' : v'.disk = w'.disk) : Watched events v v' := by
  induction h generalizing v with
  | stop disk => exact .stop (by rw [hdisk', disk, hdisk])
  | next first rest ih =>
    refine .next (fun opts hopts => ?_) (ih rfl rfl hdisk')
    rw [hdisk, hproject] at hopts
    rw [hdisk]
    exact first opts hopts

end World.Watched

/-- Something happens on the disk. -/
theorem happen_apply (e : Event) (w : World) :
    happen e w = (.ok (), { w with disk := w.disk.after e }) := rfl

/-- The world is changed. -/
theorem modify_apply (f : World → World) (w : World) :
    (modify f : Running Unit) w = (.ok (), f w) := rfl

/-- Handing changes to a handler is watching. The induction is on the changes. -/
theorem deliver_watched (h : Handler) (events : List Event) (w : World) :
    World.Watched events w (deliver h events w).2 := by
  induction events generalizing h w with
  | nil => exact .stop rfl
  | cons e events ih =>
    have hfirst : ∀ opts, Containable (w.disk.after e) w.project.configDir opts →
        (w.disk.after e).WritesBelow opts.dist (h.onEvent e { w with disk := w.disk.after e }).2.disk := by
      intro opts hopts
      have hlater := (Containable.onEvent (w := { w with disk := w.disk.after e }) hopts h e _
        ⟨.refl _ _ _, rfl⟩).1
      exact hlater.writesBelow hopts.wellFormed
    rw [deliver, bind_apply, happen_apply]
    simp only
    rw [bind_apply]
    rcases hev : h.onEvent e { w with disk := w.disk.after e } with ⟨failure | h', w₁⟩
    · rw [hev] at hfirst
      exact .next hfirst (.stop rfl)
    · rw [hev] at hfirst
      exact .next hfirst (ih h' w₁)

/-- The world looks as before, and the same changes are to be reported. -/
def World.Quiet (w w' : World) : Prop :=
  w'.disk = w.disk ∧ w'.project = w.project ∧ w'.events = w.events

namespace World.Quiet

variable {α β : Type} {P : α → Prop} {c : Running α} {w w' : World}

/-- A quiet part of a run leaves what has to be shown to the part after it. -/
theorem then_watched {f : α → Running β} (h : Ensures w.Quiet c P)
    (hf : ∀ a, P a → ∀ w', w.Quiet w' → World.Watched w.events w (f a w').2) {w' : World}
    (hw : w.Quiet w') : World.Watched w.events w ((c >>= f) w').2 := by
  obtain ⟨hkeeps, hresult⟩ := h w' hw
  rw [bind_apply]
  rcases hc : c w' with ⟨e | a, w₁⟩
  · rw [hc] at hkeeps
    exact .stop hkeeps.1
  · rw [hc] at hkeeps hresult
    exact hf a (hresult a rfl) w₁ hkeeps

/-- A report. -/
theorem report (w : World) (m : Message) : Ensures w.Quiet (report m) fun _ => True :=
  fun _ h => ⟨h, fun _ _ => True.intro⟩

/-- A request to the observer. -/
theorem observe (w : World) (c : ObserverCall) : Ensures w.Quiet (observe c) fun _ => True :=
  fun _ h => ⟨h, fun _ _ => True.intro⟩

/-- Requests to the observer. -/
theorem observeAll (w : World) (roots : List String) :
    Ensures w.Quiet (roots.forM fun root => StaticSite.observe (.schedule root)) fun _ => True := by
  induction roots with
  | nil => exact .pure True.intro
  | cons root roots ih => exact .bind (observe w _) fun _ _ => ih

end World.Quiet

/-- What is done once the observer runs is watching. -/
theorem watch_watched (views : List String) (w : World) : World.Watched w.events w (watch views w).2 := by
  have hquiet : w.Quiet w := ⟨rfl, rfl, rfl⟩
  have hown := fun c => World.Quiet.observe w c
  refine World.Quiet.then_watched .currentOptions (fun opts _ _ h => ?_) hquiet
  refine World.Quiet.then_watched (.ofExcept _) (fun watched _ _ h => ?_) h
  refine World.Quiet.then_watched (.ofExcept _) (fun setting _ _ h => ?_) h
  refine World.Quiet.then_watched (.ofExcept _) (fun delay _ _ h => ?_) h
  refine World.Quiet.then_watched (.ofExcept _) (fun values _ _ h => ?_) h
  refine World.Quiet.then_watched (.ofExcept _) (fun globs _ _ h => ?_) h
  refine World.Quiet.then_watched .get (fun w₁ h₁ _ h => ?_) h
  refine World.Quiet.then_watched (World.Quiet.observeAll w _) (fun _ _ _ h => ?_) h
  refine World.Quiet.then_watched (hown _) (fun _ _ _ h => ?_) h
  refine World.Quiet.then_watched (World.Quiet.report w _) (fun _ _ _ h => ?_) h
  refine World.Quiet.then_watched .get (fun w₂ h₂ w₃ h => ?_) h
  -- the changes that are handed over are those to be reported, or none
  have hgo := deliver_watched ⟨views, delay, []⟩
    (if (watchRoots w₁.disk globs).isEmpty then [] else w₂.events) { w₃ with events := [] }
  have hgo' : World.Watched w.events w (deliver ⟨views, delay, []⟩
      (if (watchRoots w₁.disk globs).isEmpty then [] else w₂.events) { w₃ with events := [] }).2 := by
    by_cases hroots : (watchRoots w₁.disk globs).isEmpty = true
    · rw [if_pos hroots]
      exact .stop h.1
    · rw [if_neg hroots, h₂.2.2] at hgo ⊢
      exact hgo.congr h.1.symm h.2.1.symm rfl
  rw [bind_apply, modify_apply]
  simp only
  rw [bind_apply, Running.attempt]
  revert hgo'
  rcases deliver ⟨views, delay, []⟩ _ { w₃ with events := [] } with ⟨outcome, w₄⟩
  intro hgo'
  refine hgo'.congr rfl rfl ?_
  -- what follows leaves the disk alone
  have hdisk : Blind fun v => v.disk = w₄.disk := fun _ _ h h' _ => h'.trans h
  have hlast : ∀ c : Running Unit, Ensures (fun v => v.disk = w₄.disk) c (fun _ => True) →
      (c w₄).2.disk = w₄.disk := fun c hc => (hc w₄ rfl).1
  simp only
  rcases outcome with e | _
  · refine hlast _ (.bind (hdisk.observe _) fun _ _ => .bind (hdisk.observe _) fun _ _ => ?_)
    exact .bind (hdisk.report _) fun _ _ => .throw e
  · refine hlast _ (.bind (hdisk.report _) fun _ _ => .bind (hdisk.observe _) fun _ _ => ?_)
    exact .bind (hdisk.observe _) fun _ _ => .bind (hdisk.report _) fun _ _ => .pure True.intro

/-- Watching the site is watching. -/
theorem build_watched (w : World) : World.Watched w.events w (build true w).2 := by
  have hquiet : w.Quiet w := ⟨rfl, rfl, rfl⟩
  refine World.Quiet.then_watched .currentOptions (fun opts _ _ h => ?_) hquiet
  refine World.Quiet.then_watched .get (fun w₁ _ w₂ h => ?_) h
  by_cases hfolder : (!w₁.disk.isFolder opts.views) = true
  · rw [if_pos hfolder]
    refine World.Quiet.then_watched (World.Quiet.report w _) (fun _ _ _ h => ?_) h
    exact .stop h.1
  · rw [if_neg hfolder]
    refine World.Quiet.then_watched .get (fun w₃ _ _ h => ?_) h
    refine World.Quiet.then_watched (.ofExcept _) (fun views _ w₄ h => ?_) h
    have hwatch : World.Watched w₄.events w (watch views w₄).2 :=
      (watch_watched views w₄).congr h.1.symm h.2.1.symm rfl
    rw [h.2.2] at hwatch
    refine hwatch.congr rfl rfl ?_
    rw [if_pos rfl, bind_apply]
    rcases watch views w₄ with ⟨e | _, w₅⟩
    · rfl
    · rfl

/-- **Builds write below the distribution directory.** A build, a walk of the views, what is built after
a change and what is done about an event change the disk only there, and so does everything that is done
while watching. -/
theorem build_contained (hw : Containable w.disk w.project.configDir opts) :
    w.disk.WritesBelow opts.dist (build false w).2.disk ∧
    w.disk.WritesBelow opts.dist (walk opts.views none w).2.disk ∧
    (∀ changed views, w.disk.WritesBelow opts.dist (rebuild changed views w).2.disk) ∧
    (∀ (h : Handler) e, w.disk.WritesBelow opts.dist (h.onEvent e w).2.disk) ∧
    World.Watched w.events w (build true w).2 := by
  have hlater : w.Later opts w := ⟨.refl _ _ _, rfl⟩
  have hbelow : ∀ {α : Type} {c : Running α}, Ensures (w.Later opts) c (fun _ => True) →
      w.disk.WritesBelow opts.dist (c w).2.disk := fun hc =>
    (hc w hlater).1.writesBelow hw.wellFormed
  exact ⟨hbelow hw.build, hbelow hw.walk, fun changed views => hbelow (hw.rebuild changed views),
    fun h e => hbelow (hw.onEvent h e), build_watched w⟩

/-! ### Some worlds -/

/-- The builds of a world are contained if its options load and the rest can be checked of them. -/
theorem Containable.exists_of_options {P : Options → Prop}
    (h : ∃ opts ∈ (StaticSite.options w.disk w.project.configDir).toOption,
      (w.disk.WellFormed ∧ isAbsolute w.disk.cwd = true ∧ isAbsolute w.project.configDir = true ∧
        Path.normalize w.project.configDir = w.project.configDir ∧
        ∀ c ∈ (place opts.views).getLast?, hasEnding c templateExt = false) ∧ P opts) :
    ∃ opts, Containable w.disk w.project.configDir opts ∧ P opts := by
  obtain ⟨opts, hopts, ⟨hd, hcwd, hconfig, hspelling, hviews⟩, hP⟩ := exists_options h
  exact ⟨opts, ⟨hd, hcwd, hopts, Disk.settled_of_canonical _ hconfig hspelling, fun c hc => hviews c hc⟩,
    hP⟩

namespace World

/-- A world with one view. -/
def oneView : World where
  disk := ⟨[(["src"], .folder), (["src", "views"], .folder),
    (["src", "views", "v.j2"], .file (.text "v"))], "/", "/"⟩
  project := ⟨"/config", false, false⟩

/-- A world whose distribution directory is spelled through a directory that is not there. -/
def throughMissing : World where
  disk := ⟨[(["config"], .folder), (["config", "global.yml"], .file (.text "dist: a/../o")),
    (["src"], .folder), (["src", "views"], .folder),
    (["src", "views", "v.j2"], .file (.text "v"))], "/", "/"⟩
  project := ⟨"/config", false, false⟩

end World

set_option maxRecDepth 100000

/-- The builds of a world with one view are contained. -/
theorem oneView_contained : ∃ opts,
    Containable World.oneView.disk World.oneView.project.configDir opts ∧
    World.oneView.disk.WritesBelow opts.dist (build false World.oneView).2.disk ∧
    World.oneView.disk.WritesBelow opts.dist (walk opts.views none World.oneView).2.disk ∧
    (∀ changed views,
      World.oneView.disk.WritesBelow opts.dist (rebuild changed views World.oneView).2.disk) ∧
    (∀ (h : Handler) e, World.oneView.disk.WritesBelow opts.dist (h.onEvent e World.oneView).2.disk) ∧
    World.Watched World.oneView.events World.oneView (build true World.oneView).2 := by
  obtain ⟨opts, hw, -⟩ := Containable.exists_of_options (w := World.oneView) (P := fun _ => True)
    (by decide +kernel)
  exact ⟨opts, hw, build_contained hw⟩

/-- A build may make a folder that is neither below the distribution directory nor above it, where the
path of that leads through a directory that is not there. -/
theorem not_contained : ∃ opts,
    Containable World.throughMissing.disk World.throughMissing.project.configDir opts ∧
    World.throughMissing.disk.isFolder opts.views = true ∧
    World.throughMissing.disk.get? ["a"] = none ∧
    (walk opts.views none World.throughMissing).2.disk.get? ["a"] = some .folder ∧
    ¬place opts.dist <+: ["a"] ∧ ¬["a"] <+: place opts.dist :=
  Containable.exists_of_options (by decide +kernel)

end StaticSite
