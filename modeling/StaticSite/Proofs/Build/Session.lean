import StaticSite.Proofs.Build.Containment
import StaticSite.Proofs.Build.Reaction

/-!
# Watch sessions

A session begins with the views that are directly inside the views directory, and never looks for them
again: the handler keeps their names while files come, change and go. So the view that owns the directory
of a changed file may have gone when the file changes. A missing template compiles to the empty text, and
then that is written as its page. No other page is written in development for a file that is not there.

## Main definitions

* `Handler.Routes`: a change that has the handler build.
* `Session`: what a session can come to.
* `World.Grounded`: what is written of one file is its page, or the page of the empty text.

## Main results

* `Handler.onEvent_cases`: what a handler can do about a change.
* `Session.keeps`: what holds throughout a session.
* `Session.rebuild_grounded`: in a session a page is written only of a file that is there, or is that of
  the empty text.
* `not_grounded`: a page is written of a view that has gone.
-/

namespace StaticSite

open Path Running

variable {w w' w₁ : World} {opts : Options} {path changed : String} {views : List String}
  {h h' : Handler} {e : Event} {p : Project} {a : Affected}

/-! ### The project stays -/

/-- A world of a project. -/
def World.Of (w : World) (p : Project) : Prop := w.project = p

namespace World.Of

/-- Being of a project is said of the project. -/
theorem blind (p : Project) : Blind (World.Of · p) := fun _ _ h _ hproject => hproject.trans h

/-- Another disk makes no other project. -/
theorem disk (hw : w.Of p) (d : Disk) : World.Of { w with disk := d } p := hw

/-- Making folders keeps the project. -/
theorem makeFolders (path : String) : Ensures (World.Of · p) (Running.makeFolders path) fun _ => True := by
  intro w hw
  rw [makeFolders_apply]
  exact ⟨hw.disk _, fun _ _ => True.intro⟩

/-- Writing a text keeps the project. -/
theorem writeText (path text : String) :
    Ensures (World.Of · p) (Running.writeText path text) fun _ => True := by
  intro w hw
  rw [writeText_apply]
  split
  · exact ⟨hw.disk _, fun _ _ => True.intro⟩
  · exact ⟨hw, fun _ _ => True.intro⟩

/-- Building a view keeps the project. -/
theorem buildView (path : String) : Ensures (World.Of · p) (buildView path) fun _ => True := by
  have hI := blind p
  refine .bind .currentOptions fun opts _ => .ite (fun _ => .pure True.intro) fun _ => ?_
  refine .bind (hI.compile _) fun data _ => .bind (P := fun _ => True) ?_ fun target _ => ?_
  · cases data with
    | none => exact .bind (hI.report _) fun _ _ => .pure True.intro
    | some text =>
      refine .bind (hI.orReport _ _ .currentOptions) fun asked _ => ?_
      cases asked with
      | none => exact .pure True.intro
      | some opts =>
        refine .bind .get fun _ _ => .bind (.ofExcept _) fun target _ => ?_
        refine .bind (hI.orReport _ _ (P := fun _ => True) ?_) fun written _ => ?_
        · exact .bind (makeFolders _) fun _ _ => .bind (.ofExcept _) fun page _ => writeText _ page
        · cases written with
          | none => exact .pure True.intro
          | some _ => exact .bind (hI.report _) fun _ _ => .pure True.intro
  · cases target with
    | none => exact .pure True.intro
    | some page =>
      refine .bind .get fun _ _ => .ite (fun _ => ?_) fun _ => .pure True.intro
      exact .bind (hI.auditPage page) fun _ _ => .pure True.intro

/-- A walk keeps the project. -/
theorem walkAt (n : Nat) (entry : String) (base : Option String) :
    Ensures (World.Of · p) (walkAt n entry base) fun _ => True := by
  have hI := blind p
  induction n generalizing entry base with
  | zero => exact .throw _
  | succ n ih =>
    refine .bind .currentOptions fun opts _ => .bind .get fun _ _ => .bind (.ofExcept _) fun path _ => ?_
    refine .ite (fun _ => .bind (buildView path) fun _ _ => .pure True.intro) fun _ => ?_
    refine .bind .get fun _ _ => .ite (fun _ => ?_) fun _ => .bind .get fun w₁ _ => ?_
    · exact .bind (hI.detail _) fun _ _ => .pure True.intro
    rcases w₁.disk.list path with e | children
    · exact .ite (fun _ => .bind (hI.report _) fun _ _ => .pure True.intro) fun _ => .throw e
    · exact .bind (.mapM fun child _ => ih child (some path)) fun _ _ => .pure True.intro

/-- Building again after a change keeps the project. -/
theorem rebuild (changed : String) (views : List String) :
    Ensures (World.Of · p) (rebuild changed views) fun _ => True := by
  have hI := blind p
  have hwalk : ∀ entry base, Ensures (World.Of · p) (walk entry base) fun _ => True := fun entry base =>
    .bind .get fun _ _ => walkAt _ entry base
  refine .bind .currentOptions fun opts _ => .bind .get fun _ _ => .ite (fun _ => hwalk _ _) fun _ => ?_
  refine .bind (hI.report _) fun _ _ => .bind .get fun _ _ => .bind (.ofExcept _) fun a _ => ?_
  refine .bind (hI.detail _) fun _ _ => ?_
  split
  · exact hwalk _ _
  · exact .bind (buildView _) fun _ _ => .pure True.intro

end World.Of

/-! ### What a handler does -/

namespace Handler

/-- A change of a path counts: a glob matches it, and not too little time has passed since the last one
that counted. -/
def Admits (h : Handler) (w : World) (path : String) (time : Binary64) (accepted : Accepted Binary64) :
    Prop :=
  ∃ opts globs, options w.disk w.project.configDir = .ok opts ∧ iterate opts.globs = .ok globs ∧
    matchesAny path globs = .ok true ∧ h.accepted.admit? h.delay path time = some accepted

/-- A change that has the handler build, and what the handler notes about it. -/
def Routes (h : Handler) (e : Event) (w : World) (accepted : Accepted Binary64) : Prop :=
  e.isFolder = false ∧ isRelevant e.kind = true ∧ h.Admits w (subject e) e.time accepted

/-- A change that counts is noted. -/
theorem shouldRebuild_of_admits {time : Binary64} {accepted : Accepted Binary64}
    (ha : h.Admits w path time accepted) :
    h.shouldRebuild path time w = (.ok (true, { h with accepted }), w) := by
  obtain ⟨opts, globs, hopts, hglobs, hmatch, hnoted⟩ := ha
  rw [shouldRebuild, bind_apply, currentOptions_apply hopts]
  simp only [hglobs]
  rw [Running.ofExcept, bind_apply, pure_apply]
  simp only [hmatch]
  rw [Running.ofExcept, bind_apply, pure_apply]
  simp only [hnoted]
  rfl

/-- Whether a change counts is found out without a trace. -/
theorem shouldRebuild_cases (h : Handler) (path : String) (time : Binary64) (w : World) :
    (∃ failure, h.shouldRebuild path time w = (.error failure, w)) ∨
      h.shouldRebuild path time w = (.ok (false, h), w) ∨
      ∃ accepted, h.Admits w path time accepted := by
  rcases hopts : options w.disk w.project.configDir with failure | opts
  · refine .inl ⟨failure, ?_⟩
    rw [shouldRebuild, bind_apply, currentOptions, bind_apply, get_apply]
    simp only [hopts]
    rfl
  rcases hglobs : iterate opts.globs with failure | globs
  · refine .inl ⟨failure, ?_⟩
    rw [shouldRebuild, bind_apply, currentOptions_apply hopts]
    simp only [hglobs]
    rfl
  rcases hmatch : matchesAny path globs with failure | matched
  · refine .inl ⟨failure, ?_⟩
    rw [shouldRebuild, bind_apply, currentOptions_apply hopts]
    simp only [hglobs]
    rw [Running.ofExcept, bind_apply, pure_apply]
    simp only [hmatch]
    rfl
  cases matched with
  | false =>
    refine .inr (.inl ?_)
    rw [shouldRebuild, bind_apply, currentOptions_apply hopts]
    simp only [hglobs]
    rw [Running.ofExcept, bind_apply, pure_apply]
    simp only [hmatch]
    rfl
  | true =>
    rcases hnoted : h.accepted.admit? h.delay path time with _ | accepted
    · refine .inr (.inl ?_)
      rw [shouldRebuild, bind_apply, currentOptions_apply hopts]
      simp only [hglobs]
      rw [Running.ofExcept, bind_apply, pure_apply]
      simp only [hmatch]
      rw [Running.ofExcept, bind_apply, pure_apply]
      simp only [hnoted]
      rfl
    · exact .inr (.inr ⟨accepted, opts, globs, hopts, hglobs, hmatch, hnoted⟩)

/-- A change that counts has the handler build, whose failures are reported. -/
theorem onEvent_of_routes {accepted : Accepted Binary64} (hroutes : h.Routes e w accepted) :
    ∃ r messages, h.onEvent e w =
        (r, { (rebuild (subject e) h.views w).2 with messages := messages }) ∧
      ∀ h', r = .ok h' → h' = { h with accepted } := by
  obtain ⟨hfolder, hkind, hadmits⟩ := hroutes
  have hno : (e.isFolder || !isRelevant e.kind) = false := by rw [hfolder, hkind]; rfl
  rw [onEvent, hno, if_neg (by simp), bind_apply, attempt, shouldRebuild_of_admits hadmits]
  simp only
  rw [bind_apply, attempt]
  rcases hbuilt : rebuild (subject e) h.views w with ⟨failure | written, w'⟩
  · cases failure
    case exit code => exact ⟨.error (.exit code), w'.messages, rfl, fun h' hr => absurd hr (by simp)⟩
    all_goals exact ⟨.ok { h with accepted }, w'.messages ++ [_], rfl, fun h' hr => (Except.ok.inj hr).symm⟩
  · exact ⟨.ok { h with accepted }, w'.messages, rfl, fun h' hr => (Except.ok.inj hr).symm⟩

/-- Any other change is passed over, or reported. -/
theorem onEvent_of_not_routes (hno : ∀ accepted, ¬h.Routes e w accepted) :
    ∃ r messages, h.onEvent e w = (r, { w with messages := messages }) ∧
      ∀ h', r = .ok h' → h' = h := by
  by_cases hskip : (e.isFolder || !isRelevant e.kind) = true
  · refine ⟨.ok h, w.messages, ?_, ?_⟩
    · rw [onEvent, if_pos hskip]
      rfl
    · exact fun h' hr => (Except.ok.inj hr).symm
  rcases h.shouldRebuild_cases (subject e) e.time w with ⟨failure, hcase⟩ | hcase | ⟨accepted, hadmits⟩
  · rw [onEvent, if_neg hskip, bind_apply, attempt, hcase]
    cases failure
    case exit code => exact ⟨.error (.exit code), w.messages, rfl, fun h' hr => absurd hr (by simp)⟩
    all_goals exact ⟨.ok h, w.messages ++ [_], rfl, fun h' hr => (Except.ok.inj hr).symm⟩
  · rw [onEvent, if_neg hskip, bind_apply, attempt, hcase]
    exact ⟨.ok h, w.messages, rfl, fun h' hr => (Except.ok.inj hr).symm⟩
  · simp only [Bool.or_eq_true, Bool.not_eq_true', not_or, Bool.not_eq_true, Bool.not_eq_false] at hskip
    exact absurd ⟨hskip.1, hskip.2, hadmits⟩ (hno accepted)

/-- All that a handler can do about a change: it builds and notes the change, or it does nothing. -/
theorem onEvent_cases (hstep : h.onEvent e w = (.ok h', w')) :
    (∃ accepted messages, h.Routes e w accepted ∧ h' = { h with accepted } ∧
      w' = { (rebuild (subject e) h.views w).2 with messages := messages }) ∨
    h' = h ∧ ∃ messages, w' = { w with messages := messages } := by
  by_cases hroutes : ∃ accepted, h.Routes e w accepted
  · obtain ⟨accepted, hroutes⟩ := hroutes
    obtain ⟨r, messages, heq, hr⟩ := onEvent_of_routes hroutes
    rw [heq, Prod.mk.injEq] at hstep
    exact .inl ⟨accepted, messages, hroutes, hr h' hstep.1, hstep.2.symm⟩
  · obtain ⟨r, messages, heq, hr⟩ := onEvent_of_not_routes (not_exists.mp hroutes)
    rw [heq, Prod.mk.injEq] at hstep
    exact .inr ⟨hr h' hstep.1, messages, hstep.2.symm⟩

/-- Whatever a handler does, it keeps its views and its delay, and the project stays. -/
theorem onEvent_keeps (hstep : h.onEvent e w = (.ok h', w')) :
    h'.views = h.views ∧ h'.delay = h.delay ∧ w'.project = w.project := by
  rcases onEvent_cases hstep with ⟨accepted, messages, -, rfl, rfl⟩ | ⟨rfl, messages, rfl⟩
  · have hproject : (rebuild (subject e) h.views w).2.project = w.project :=
      (World.Of.rebuild _ _ w rfl).1
    exact ⟨rfl, rfl, hproject⟩
  · exact ⟨rfl, rfl, rfl⟩

end Handler

/-- Handing over changes comes to the first being handled, and the others. -/
theorem deliver_cons (h : Handler) (e : Event) (events : List Event) (w : World) :
    deliver h (e :: events) w = (do
      let h' ← h.onEvent e
      deliver h' events) { w with disk := w.disk.after e } := by
  rw [deliver, bind_apply, happen_apply]

/-! ### Sessions -/

/-- What a handler and a world can come to in a session in development that began with some views. -/
inductive Session (views : List String) : Handler → World → Prop
  /-- At the beginning the views directly inside the views directory are looked up. -/
  | start {w : World} {opts : Options} {delay : Binary64} (wellFormed : w.disk.WellFormed)
    (development : w.project.development = true)
    (loaded : options w.disk w.project.configDir = .ok opts)
    (found : viewSet w.disk opts.views opts.ext = .ok views) : Session views ⟨views, delay, []⟩ w
  /-- Files come, change and go. -/
  | edit {h : Handler} {w : World} (d : Disk) (before : Session views h w) :
    Session views h { w with disk := d }
  /-- A change is handled. -/
  | event {h h' : Handler} {w w' : World} {e : Event} (before : Session views h w)
    (step : h.onEvent e w = (.ok h', w')) : Session views h' w'

namespace Session

/-- In a session the handler keeps the views of the beginning, which are names of templates, and the
project stays in development. -/
theorem keeps (hs : Session views h w) :
    h.views = views ∧ w.project.development = true ∧
      ∀ view ∈ views, IsName view ∧ hasEnding view templateExt = true := by
  induction hs with
  | start wellFormed development loaded found =>
    refine ⟨rfl, development, fun view hview => ?_⟩
    obtain ⟨names, hl, rfl⟩ := list_of_viewSet found
    obtain ⟨hname, hending⟩ := List.mem_filter.mp hview
    rw [ext_of_options loaded] at hending
    exact ⟨(Disk.entryName_of_mem_list wellFormed hl hname).toIsName, hending⟩
  | edit d before ih => exact ih
  | event before step ih =>
    obtain ⟨hviews, hdev, hnames⟩ := ih
    obtain ⟨hviews', -, hproject⟩ := Handler.onEvent_keeps step
    exact ⟨hviews'.trans hviews, by rw [hproject, hdev], hnames⟩

/-- Changes that are handed over one after the other belong to the session. -/
theorem deliver (hs : Session views h w) {events : List Event}
    (hall : deliver h events w = (.ok h', w')) : Session views h' w' := by
  induction events generalizing h w with
  | nil =>
    obtain ⟨hr, rfl⟩ := Prod.ext_iff.mp hall
    obtain rfl := Except.ok.inj hr
    exact hs
  | cons e events ih =>
    rw [deliver_cons] at hall
    obtain ⟨h₁, w₁, hstep, hrest⟩ := exists_of_bind_ok hall
    exact ih (.event (.edit _ hs) hstep) hrest

end Session

/-! ### What is written of one file -/

/-- A view that is met leaves what building it leaves. -/
theorem visit_view_world (path : String) (w : World) :
    (visit (.view path) w).2 = (buildView path w).2 := by
  rw [visit, bind_apply]
  rcases buildView path w with ⟨failure | page, w'⟩
  · rfl
  · rfl

/-- A view that is met, but not built, gives no page. -/
theorem visit_view_of_none (h : (buildView path w).1 = .ok none) :
    (visit (.view path) w).1 = .ok [] := by
  rw [visit, bind_apply]
  rcases hb : buildView path w with ⟨failure | page, w'⟩
  · rw [hb] at h
    exact absurd h (by simp)
  · rw [hb] at h
    obtain rfl := Except.ok.inj h
    rfl

/-- What building one view leaves on the disk: nothing if it is no template or a folder; the page of the
empty text if nothing is there; else it is a file. -/
theorem buildView_cases (hopts : options w.disk w.project.configDir = .ok opts) (path : String) :
    ((buildView path w).1 = .ok none ∧ (buildView path w).2.disk = w.disk) ∨
      hasEnding path templateExt = true ∧ (w.disk.isFile path = true ∨ w.disk.holds path = false ∧
        (buildView path w).2.disk = (writePage path (some "") w).2.disk) := by
  by_cases hending : hasEnding path templateExt = true
  · by_cases hfile : w.disk.isFile path = true
    · exact .inr ⟨hending, .inl hfile⟩
    have hno : (!hasEnding path opts.ext) = false := by rw [ext_of_options hopts, hending]; rfl
    by_cases hholds : w.disk.holds path = true
    · obtain ⟨messages, hfolder⟩ := World.barred_of_isFolder hopts hending
        (Disk.isFolder_of_holds hholds (by simpa using hfile)) .tooDeep w.messages
      rw [World.barred, Bool.eq_false_iff.mpr hfile, Bool.and_false, if_neg (by simp)] at hfolder
      have hfolder' : buildView path w = (.ok none, { w with messages := messages }) := hfolder
      rw [hfolder']
      exact .inl ⟨rfl, rfl⟩
    · rw [Bool.not_eq_true] at hholds
      refine .inr ⟨hending, .inr ⟨hholds, ?_⟩⟩
      rw [buildView, bind_apply, currentOptions_apply hopts]
      simp only [hno, Bool.false_eq_true, if_false]
      rw [bind_apply, compile_apply, w.site.compile_of_missing hholds]
      simp only
      rw [bind_apply]
      rcases writePage path (some "") w with ⟨failure | _ | page, w'⟩
      · rfl
      · rfl
      · simp only
        rw [bind_apply, get_apply]
        -- an audit leaves the disk alone
        have hI : Blind fun v => v.disk = w'.disk := fun _ _ h hdisk _ => hdisk.trans h
        have haudit : Ensures (fun v => v.disk = w'.disk)
            (if w'.project.audit && !page.isEmpty then do
              let _ ← auditPage page
              pure (some page)
            else pure (some page)) fun _ => True :=
          .ite (fun _ => .bind (hI.auditPage page) fun _ _ => .pure True.intro) fun _ => .pure True.intro
        exact (haudit w' rfl).1
  · refine .inl ?_
    rw [buildView_of_not_hasEnding hopts (by rw [ext_of_options hopts]; simpa using hending)]
    exact ⟨rfl, rfl⟩

/-- What is built of one file after a change: a template, which is the changed file or one of the views.
It is a file, or nothing is there and the page of the empty text is written. -/
structure World.Grounded (w : World) (opts : Options) (views : List String) (changed : String)
    (a : Affected) : Prop where
  /-- It ends like a template. -/
  ending : hasEnding a.target templateExt = true
  /-- If only the changed file is affected, it is that. -/
  single : a.extent = .single → a.target = changed
  /-- If the owner of the changed file is affected, it is one of the views. -/
  inferred : a.extent = .inferred → ∃ view ∈ views, a.target = Path.join opts.views view
  /-- It is there, or the empty text is written. -/
  source : w.disk.isFile a.target = true ∨ w.disk.holds a.target = false ∧
    ∃ w₁, w.Untouched w₁ ∧
      (rebuild changed views w).2.disk = (writePage a.target (some "") w₁).2.disk

/-- Nothing is built after a change. -/
def World.BuildsNone (w : World) (changed : String) (views : List String) : Prop :=
  (rebuild changed views w).1 = .ok [] ∧ (rebuild changed views w).2.disk = w.disk

/-- **A session invents no pages but empty ones.** When one file is to be built after a change, nothing is
written, or the file is a template that is there, or it is missing and its page is that of the empty
text. -/
theorem Session.rebuild_grounded (hs : Session views h w)
    (hopts : options w.disk w.project.configDir = .ok opts)
    (ha : classify w.disk.cwd changed h.views opts.views opts.ext = .ok a) (hextent : a.extent ≠ .walk) :
    w.BuildsNone changed h.views ∨ w.Grounded opts views changed a := by
  obtain ⟨hviews, hdev, hnames⟩ := hs.keeps
  rw [hviews] at ha ⊢
  obtain ⟨messages, hrebuild⟩ := rebuild_apply hopts hdev ha
  rw [if_neg hextent] at hrebuild
  have hdisk : (rebuild changed views w).2.disk =
      (buildView a.target { w with messages := messages }).2.disk := by
    rw [hrebuild, visit_view_world]
  rcases buildView_cases (w := { w with messages := messages }) hopts a.target with
    ⟨hnone, hsame⟩ | ⟨hending, hsource⟩
  · refine .inl ⟨?_, hdisk.trans hsame⟩
    rw [hrebuild, visit_view_of_none hnone]
  · refine .inr ⟨hending, classify_single ha, fun hinferred => ?_, ?_⟩
    · obtain ⟨view, hview, htarget⟩ := classify_inferred ha hinferred
      obtain ⟨hname, hviewEnding⟩ := hnames view hview
      rw [ext_of_options hopts, stem_append hname.slash hviewEnding] at htarget
      exact ⟨view, hview, htarget⟩
    · rcases hsource with hfile | ⟨hmissing, hwritten⟩
      · exact .inl hfile
      · exact .inr ⟨hmissing, _, ⟨messages, rfl⟩, hdisk.trans hwritten⟩

/-! ### A view that has gone -/

namespace World

/-- The world with parts of a view, once the view has gone. -/
def ownerGone : World :=
  { partials with
    disk := ⟨[(["src"], .folder), (["src", "layout.j2"], .file (.text "l")),
      (["src", "views"], .folder), (["src", "views", "home"], .folder),
      (["src", "views", "home", "intro.md"], .file (.text "i")),
      (["src", "views", "x.md"], .file (.text "x"))], "/", "/"⟩ }

/-- A fifth of a second. -/
def fifth : Binary64 := Binary64.ofDecimal false 2 (-1)

/-- A change of a part of the view, a second after the beginning. -/
def partChange : Event := ⟨.modified, "/src/views/home/intro.md", "", false, Binary64.ofInt 1, []⟩

set_option maxRecDepth 100000

/-- The change is one of the view, which is not there. -/
theorem ownerGone_facts : ∃ opts, options ownerGone.disk ownerGone.project.configDir = .ok opts ∧
    (classify ownerGone.disk.cwd "/src/views/home/intro.md" ["home.j2"] opts.views opts.ext).toOption =
      some ⟨.inferred, "/src/views/home.j2"⟩ ∧
    ownerGone.disk.holds "/src/views/home.j2" = false ∧
    ownerGone.disk.holds "/dist/home.html" = false ∧
    (Handler.onEvent ⟨["home.j2"], fifth, []⟩ partChange ownerGone).2.disk.find? "/dist/home.html" =
      some (.file (.text "")) :=
  exists_options (by decide +kernel)

end World

/-- A session comes to the world where the view has gone. -/
theorem Session.ownerGone : Session ["home.j2"] ⟨["home.j2"], World.fifth, []⟩ World.ownerGone := by
  obtain ⟨opts, hopts, hd, -, -, -, hviews, -⟩ := World.partials_facts
  exact .edit World.ownerGone.disk (.start hd rfl hopts (ok_of_toOption hviews))

/-- There, when a part of the view has changed, no page is written but that of the empty text. -/
theorem Session.ownerGone_grounded : ∃ opts,
    Session ["home.j2"] ⟨["home.j2"], World.fifth, []⟩ World.ownerGone ∧
    options World.ownerGone.disk World.ownerGone.project.configDir = .ok opts ∧
    classify World.ownerGone.disk.cwd "/src/views/home/intro.md" ["home.j2"] opts.views opts.ext =
      .ok ⟨.inferred, "/src/views/home.j2"⟩ ∧
    Extent.inferred ≠ .walk ∧
    (World.ownerGone.BuildsNone "/src/views/home/intro.md" ["home.j2"] ∨
      World.ownerGone.Grounded opts ["home.j2"] "/src/views/home/intro.md"
        ⟨.inferred, "/src/views/home.j2"⟩) := by
  obtain ⟨opts, hopts, hclassify, -⟩ := World.ownerGone_facts
  have hclassify' := ok_of_toOption hclassify
  have hextent : Extent.inferred ≠ .walk := by decide
  have hgrounded := Session.rebuild_grounded Session.ownerGone hopts hclassify' hextent
  exact ⟨opts, Session.ownerGone, hopts, hclassify', hextent, hgrounded⟩

/-- In a session in development a page is written of a view that is not there: the view has gone, and a
part of it has changed. -/
theorem not_grounded : ∃ opts,
    Session ["home.j2"] ⟨["home.j2"], World.fifth, []⟩ World.ownerGone ∧
    options World.ownerGone.disk World.ownerGone.project.configDir = .ok opts ∧
    classify World.ownerGone.disk.cwd (Handler.subject World.partChange) ["home.j2"] opts.views opts.ext =
      .ok ⟨.inferred, "/src/views/home.j2"⟩ ∧
    World.ownerGone.disk.holds "/src/views/home.j2" = false ∧
    World.ownerGone.disk.holds "/dist/home.html" = false ∧
    (Handler.onEvent ⟨["home.j2"], World.fifth, []⟩ World.partChange
      World.ownerGone).2.disk.find? "/dist/home.html" = some (.file (.text "")) := by
  obtain ⟨opts, hopts, hclassify, hgone, hpage, hwritten⟩ := World.ownerGone_facts
  exact ⟨opts, Session.ownerGone, hopts, ok_of_toOption hclassify, hgone, hpage, hwritten⟩

end StaticSite
