import StaticSite.Proofs.Path.Below
import StaticSite.Proofs.Site.Frame
import StaticSite.Proofs.Site.View
import StaticSite.Site.Walk

/-!
# The walk as a plan

A walk decides where to go as it goes, from what is on the disk by then, while it writes to the same
disk. As long as nothing is written below the directory where it began, it follows a plan that can be
read off the disk beforehand: the views, and what is passed over, in the order in which they are met.

## Main definitions

* `Visit`, `visits`: what a walk meets, and all that it meets.
* `visitAll`: a walk that follows a plan.
* `visitAllWith`, `walkWith`: the same with another builder of views.
* `Undisturbed`: what a run keeps, so that a walk can follow its plan.

## Main results

* `Disk.list_eq_ok`: when a directory can be read.
* `entryPath_child`: a child is joined to its directory.
* `walkAtWith_eq`, `walkAt_eq`: a walk that is not disturbed follows its plan.
-/

namespace StaticSite

open Path Running

/-! ### Plans -/

/-- What a walk meets. -/
inductive Visit
  /-- A view, which is built. -/
  | view (path : String)
  /-- A file that is no view. -/
  | skip (path : String)
  /-- Something that cannot be read as a directory. -/
  | unreadable (path : String)
  deriving DecidableEq, Repr

/-- Where it is met. -/
def Visit.path : Visit → String
  | .view path => path
  | .skip path => path
  | .unreadable path => path

/-- The view that is built, if it is one. -/
def Visit.view? : Visit → Option String
  | .view path => some path
  | _ => none

/-- All that a walk meets, at most `n` directories deep: the children of a directory in the reverse of
their order. -/
def visits (d : Disk) : Nat → String → List Visit
  | 0, _ => []
  | n + 1, path =>
    if hasEnding path templateExt then [.view path]
    else if d.isFile path then [.skip path]
    else match d.list path with
      | .ok children => children.reverse.flatMap fun child => visits d n (Path.join path child)
      | .error _ => [.unreadable path]

/-- Deal with what a walk meets. -/
def visit : Visit → Running (List String)
  | .view path => do pure ((← buildView path).toList.filter fun p => !p.isEmpty)
  | .skip path => do
    detail ("Skipping " ++ Style.path path)
    pure []
  | .unreadable path => do
    match (← get).disk.list path with
    | .ok _ => pure []
    | .error e =>
      if e.isFile then
        report (readFailure path e)
        pure []
      else throw e

/-- Deal with all that a walk meets. -/
def visitAll : List Visit → Running (List String)
  | [] => pure []
  | v :: vs => do
    let written ← visit v
    let rest ← visitAll vs
    pure (written ++ rest)

/-! ### Other builders of views -/

/-- Deal with what a walk meets, with another builder of views. -/
def visitWith (build : String → Running (Option String)) : Visit → Running (List String)
  | .view path => do pure ((← build path).toList.filter fun p => !p.isEmpty)
  | .skip path => visit (.skip path)
  | .unreadable path => visit (.unreadable path)

/-- Deal with all that a walk meets, with another builder of views. -/
def visitAllWith (build : String → Running (Option String)) : List Visit → Running (List String)
  | [] => pure []
  | v :: vs => do
    let written ← visitWith build v
    let rest ← visitAllWith build vs
    pure (written ++ rest)

/-- The directory that a walk starts from: the views directory unless another one is given. -/
def walkBase (opts : Options) : Option String → String
  | some b => if b.isEmpty then opts.views else b
  | none => opts.views

/-- A walk with another builder of views. -/
def walkAtWith (build : String → Running (Option String)) :
    Nat → String → Option String → Running (List String)
  | 0, _, _ => throw .tooDeep
  | n + 1, entry, base => do
    let opts ← currentOptions
    let path ← Running.ofExcept (entryPath (← get).disk.cwd entry (walkBase opts base))
    if hasEnding path opts.ext then
      pure ((← build path).toList.filter fun p => !p.isEmpty)
    else if (← get).disk.isFile path then
      detail ("Skipping " ++ Style.path path)
      pure []
    else
      match (← get).disk.list path with
      | .ok children =>
        let written ← children.reverse.mapM fun child => walkAtWith build n child (some path)
        pure written.flatten
      | .error e =>
        if e.isFile then
          report (readFailure path e)
          pure []
        else throw e

/-- A walk with another builder of views, as deep as is allowed. -/
def walkWith (build : String → Running (Option String)) (entry : String) (base : Option String) :
    Running (List String) := do
  walkAtWith build (walkBudget (← get).disk) entry base

variable {build : String → Running (Option String)}

/-- With the builder of views itself it is what a walk does. -/
theorem visitWith_buildView : visitWith buildView = visit := by
  funext v
  cases v <;> rfl

/-- With the builder of views itself it is what a walk does about all that it meets. -/
theorem visitAllWith_buildView : visitAllWith buildView = visitAll := by
  funext vs
  induction vs with
  | nil => rfl
  | cons v vs ih => rw [visitAllWith, visitAll, visitWith_buildView, ih]

/-- With the builder of views itself it is a walk. -/
theorem walkAtWith_buildView : walkAtWith buildView = walkAt := by
  funext n
  induction n with
  | zero => rfl
  | succ n ih =>
    funext entry base
    rw [walkAtWith, walkAt, ih]
    rfl

/-- With the builder of views itself it is a walk as deep as is allowed. -/
theorem walkWith_buildView : walkWith buildView = walk := by
  funext entry base
  rw [walkWith, walkAtWith_buildView, walk]

/-- Two plans are followed one after the other. -/
theorem visitAllWith_append (as bs : List Visit) :
    visitAllWith build (as ++ bs) = (do
      let written ← visitAllWith build as
      let rest ← visitAllWith build bs
      pure (written ++ rest)) := by
  induction as with
  | nil => simp [visitAllWith]
  | cons v vs ih =>
    simp only [List.cons_append, visitAllWith, ih, bind_assoc, pure_bind, List.append_assoc]

/-- A plan of one visit. -/
theorem visitAllWith_singleton (v : Visit) : visitAllWith build [v] = visitWith build v := by
  simp [visitAllWith]

/-! ### Directories -/

variable {d d' : Disk} {path child cwd : String}

/-- A directory can be read exactly if it is one and its path is short. -/
theorem Disk.list_eq_ok (hd : d.WellFormed) (h : d.Firm path) {children : List String} :
    d.list path = .ok children ↔
      path.utf8ByteSize ≤ Disk.maxPathBytes ∧ d.get? (place path) = some .folder ∧
        children = d.children (place path) := by
  have hnull : path.toList.contains (Char.ofNat 0) = false := by simpa using h.null
  rw [Disk.list, Disk.refuseNull, hnull, if_neg (by simp), Disk.locate_of_isAbsolute d h.absolute]
  by_cases hlong : Disk.maxPathBytes < path.utf8ByteSize
  · rw [if_pos hlong]
    simp [Nat.not_le.mpr hlong]
  rw [if_neg hlong]
  rcases hf : d.followFrom [] (cuts path) with fault | p
  · have hno : d.get? (place path) ≠ some .folder := by
      rcases Disk.get?_of_followFrom_error hd h.steady hf with hnone | ⟨hne, -⟩
      · rw [place, hnone]
        simp
      · exact hne
    simp [hno]
  · obtain rfl : p = place path := Disk.followFrom_ok hf
    rcases he : d.get? (place path) with _ | entry
    · simp [he]
    · cases entry with
      | file c => simp [he]
      | folder =>
        simp only [he, Except.ok.injEq, true_and]
        exact ⟨fun h => ⟨Nat.not_lt.mp hlong, h.symm⟩, fun h => h.2.symm⟩

/-- A failure to read a directory is one of the file system. -/
theorem Disk.isFile_of_list_error (h : d.Firm path) {e : Failure} (he : d.list path = .error e) :
    e.isFile = true := by
  have hnull : path.toList.contains (Char.ofNat 0) = false := by simpa using h.null
  rw [Disk.list, Disk.refuseNull, hnull, if_neg (by simp)] at he
  simp only at he
  split at he
  · rw [← Except.error.inj he]
    rfl
  · split at he
    · rw [← Except.error.inj he]
      rfl
    · rw [← Except.error.inj he]
      rfl
    · exact absurd he (by simp)

/-- What is listed in a directory is an entry of it. -/
theorem Disk.isSome_of_mem_list (hd : d.WellFormed) (hfirm : d.Firm path) {children : List String}
    (hl : d.list path = .ok children) (hchild : child ∈ children) :
    (d.get? (place path ++ [child])).isSome := by
  obtain ⟨-, -, hchildren⟩ := (Disk.list_eq_ok hd hfirm).mp hl
  rwa [← Disk.mem_children, ← hchildren]

/-- What is listed in a directory has the name of an entry. -/
theorem Disk.entryName_of_mem_list (hd : d.WellFormed) {children : List String}
    (hl : d.list path = .ok children) (hchild : child ∈ children) : Disk.EntryName child := by
  rw [Disk.list] at hl
  split at hl
  · exact absurd hl (by simp)
  split at hl
  · exact absurd hl (by simp)
  split at hl
  · exact absurd hl (by simp)
  · exact absurd hl (by simp)
  · rw [← Except.ok.inj hl, Disk.mem_children] at hchild
    exact hd.entryName hchild child (by simp)

/-- A depth that admits every place below a directory admits, one less, every place below what is listed
in it. -/
theorem Disk.depth_of_mem_list (hd : d.WellFormed) (hfirm : d.Firm path) {children : List String}
    (hl : d.list path = .ok children) (hchild : child ∈ children) {n : Nat}
    (hdepth : d.entries.length < n + 1 + (place path).length) :
    0 < n ∧ d.entries.length < n + (place (Path.join path child)).length := by
  have hbound := hd.length_le (Disk.isSome_of_mem_list hd hfirm hl hchild)
  rw [place_join_name (Disk.entryName_of_mem_list hd hl hchild).toIsName]
  rw [List.length_append, List.length_singleton] at hbound ⊢
  omega

/-- Everything that a plan meets has a firm path. -/
theorem visits_firm (hd : d.WellFormed) (hfirm : d.Firm path) (n : Nat) :
    ∀ v ∈ visits d n path, d.Firm v.path := by
  induction n generalizing path with
  | zero => exact fun v hv => absurd hv List.not_mem_nil
  | succ n ih =>
    intro v hv
    rw [visits] at hv
    split at hv
    · rw [List.mem_singleton.mp hv]
      exact hfirm
    split at hv
    · rw [List.mem_singleton.mp hv]
      exact hfirm
    split at hv
    · next children hl =>
      obtain ⟨c, hc, hv⟩ := List.mem_flatMap.mp hv
      have hname := Disk.entryName_of_mem_list hd hl (List.mem_reverse.mp hc)
      exact ih (hfirm.join_name hname.toIsName hname.null) v hv
    · rw [List.mem_singleton.mp hv]
      exact hfirm

/-- The working directory is neither inside a directory nor its immediate parent. -/
structure Outside (cwd root : String) : Prop where
  /-- It begins at the root. -/
  absolute : isAbsolute cwd = true
  /-- It is not inside. -/
  inside : ¬place root <+: place cwd
  /-- It is not the immediate parent. -/
  parent : place cwd ≠ (place root).dropLast

instance (cwd root : String) : Decidable (Outside cwd root) :=
  decidable_of_iff (isAbsolute cwd = true ∧ ¬place root <+: place cwd ∧
      place cwd ≠ (place root).dropLast)
    ⟨fun ⟨h₁, h₂, h₃⟩ => ⟨h₁, h₂, h₃⟩, fun h => ⟨h.absolute, h.inside, h.parent⟩⟩

/-- A child of a directory is joined to it, as seen from outside. -/
theorem entryPath_child {root : String} (hcwd : Outside cwd root) (hpath : isAbsolute path = true)
    (hroot : place root <+: place path) (hchild : IsName child) :
    entryPath cwd child path = .ok (Path.join path child) := by
  have hfrom : placeFrom cwd child = place cwd ++ [child] := by
    rw [placeFrom, if_neg (by simp [isAbsolute_of_notMem hchild.slash]), cuts_of_notMem hchild.slash,
      descend_cons, step_name _ hchild.ne_empty hchild.ne_dot hchild.ne_up]
    rfl
  have hwithin : isWithin cwd child path = false := by
    rw [Bool.eq_false_iff, ne_eq, isWithin_iff hcwd.absolute, hfrom, placeFrom, if_pos hpath]
    intro hpre
    rcases List.prefix_concat_iff.mp (hroot.trans hpre) with heq | hinside
    · exact hcwd.parent (by rw [heq, List.dropLast_concat])
    · exact hcwd.inside hinside
  have hempty : child.isEmpty = false := by
    rw [Bool.eq_false_iff, ne_eq, String.isEmpty_iff]
    exact hchild.ne_empty
  unfold entryPath within
  simp only [hempty, hwithin, Bool.false_eq_true, if_false]

/-- A child of a directory in the views directory is joined to it, as seen from outside. -/
theorem entryPath_below {opts : Options} {root : String} (hcwd : Outside cwd opts.views)
    (hroot : isAbsolute root = true) (hviews : place opts.views <+: place root) {names : List String}
    (hnames : ∀ c ∈ names, IsName c) (hchild : IsName child) :
    entryPath cwd child (walkBase opts (some (below root names))) = .ok (below root (names ++ [child])) := by
  have habsolute := isAbsolute_below hroot names
  have hpre : place opts.views <+: place (below root names) := by
    rw [place_below root hnames]
    exact hviews.trans (List.prefix_append _ _)
  rw [walkBase, ne_empty_of_isAbsolute habsolute, below_concat]
  exact entryPath_child hcwd habsolute hpre hchild

/-- A path within the base is taken as it is. -/
theorem entryPath_within (hcwd : isAbsolute cwd = true) (hpath : isAbsolute path = true)
    {root : String} (hroot : isAbsolute root = true) (hpre : place root <+: place path) :
    entryPath cwd path root = .ok path := by
  have hempty := ne_empty_of_isAbsolute hpath
  have hwithin : isWithin cwd path root = true := by
    rw [isWithin_iff hcwd, placeFrom, if_pos hroot, placeFrom, if_pos hpath]
    exact hpre
  unfold entryPath within
  simp only [hempty, hwithin, Bool.false_eq_true, if_false]

/-- The number of nested directories that are allowed is not zero. -/
theorem exists_walkBudget (d : Disk) : ∃ n, walkBudget d = n + 1 :=
  ⟨d.entries.length + 4094, rfl⟩

/-- Some nesting is allowed. -/
theorem walkBudget_pos (d : Disk) : 0 < walkBudget d := by
  obtain ⟨n, hn⟩ := exists_walkBudget d
  omega

/-- The nesting of all entries is allowed. -/
theorem length_lt_walkBudget (d : Disk) (k : Nat) : d.entries.length < walkBudget d + k := by
  have : walkBudget d = d.entries.length + 4095 := rfl
  omega

/-! ### Following a plan -/

/-- What a run keeps while it walks below a directory, so that what it meets stays what it is on a
disk: the options, the working directory, and all that is found below the directory. -/
structure Undisturbed (d : Disk) (opts : Options) (root : String) (keeps : World → Prop) : Prop where
  /-- The options stay. -/
  options : ∀ w, keeps w → StaticSite.options w.disk w.project.configDir = .ok opts
  /-- The working directory stays. -/
  cwd : ∀ w, keeps w → w.disk.cwd = d.cwd
  /-- Files stay files, and nothing else becomes one. -/
  isFile : ∀ w names, keeps w → (∀ c ∈ names, Disk.EntryName c) →
    w.disk.isFile (below root names) = d.isFile (below root names)
  /-- Directories keep their children. -/
  list : ∀ w names children, keeps w → (∀ c ∈ names, Disk.EntryName c) →
    (w.disk.list (below root names) = .ok children ↔ d.list (below root names) = .ok children)
  /-- Messages do not matter. -/
  messages : ∀ w messages, keeps w → keeps { w with messages := messages }

/-- A run that only grows the disk, and nothing below a directory, is undisturbed there. -/
theorem undisturbed_of_get? {opts : Options} {root : String} {keeps : World → Prop}
    (hd : d.WellFormed) (hroot : d.Firm root)
    (hopts : ∀ w, keeps w → StaticSite.options w.disk w.project.configDir = .ok opts)
    (hlater : ∀ w, keeps w → Disk.Later d w.disk)
    (hsame : ∀ w, keeps w → ∀ q, w.disk.get? (place root ++ q) = d.get? (place root ++ q))
    (hmessages : ∀ w messages, keeps w → keeps { w with messages := messages }) :
    Undisturbed d opts root keeps where
  options := hopts
  cwd w hw := (hlater w hw).cwd
  isFile w names hw hnames := by
    have hfirm : d.Firm (below root names) := hroot.below fun c hc =>
      ⟨(hnames c hc).toIsName, (hnames c hc).null⟩
    refine Disk.isFile_congr (Disk.find?_congr hd ((hlater w hw).wellFormed hd) hfirm
      (hfirm.mono (hlater w hw).folder) ?_)
    rw [place_below root fun c hc => (hnames c hc).toIsName]
    exact hsame w hw names
  list w names children hw hnames := by
    have hfirm : d.Firm (below root names) := hroot.below fun c hc =>
      ⟨(hnames c hc).toIsName, (hnames c hc).null⟩
    have hd' := (hlater w hw).wellFormed hd
    have hplace := place_below root fun c hc => (hnames c hc).toIsName
    have hget : w.disk.get? (place (below root names)) = d.get? (place (below root names)) := by
      rw [hplace]
      exact hsame w hw names
    have hchildren : w.disk.children (place (below root names)) =
        d.children (place (below root names)) := by
      refine Disk.children_congr hd' hd fun name => ?_
      rw [hplace, List.append_assoc, hsame w hw]
    rw [Disk.list_eq_ok hd' (hfirm.mono (hlater w hw).folder), Disk.list_eq_ok hd hfirm, hget,
      hchildren]
  messages := hmessages

/-- A detail is at most a message. -/
theorem detail_apply (text : String) (w : World) :
    ∃ messages, detail text w = (.ok (), { w with messages := messages }) := by
  rw [detail, bind_apply, get_apply]
  simp only
  split
  · exact ⟨w.messages ++ [.line text], rfl⟩
  · exact ⟨w.messages, rfl⟩

/-- What is no view leaves messages only. -/
theorem visit_of_not_view {v : Visit} {w : World} (hview : v.view? = none) (hfirm : w.disk.Firm v.path) :
    ∃ messages, visit v w = (.ok [], { w with messages := messages }) := by
  cases v with
  | view path => simp [Visit.view?] at hview
  | skip path =>
    obtain ⟨messages, hdetail⟩ := detail_apply ("Skipping " ++ Style.path path) w
    refine ⟨messages, ?_⟩
    rw [visit, bind_apply, hdetail]
    rfl
  | unreadable path =>
    rcases hl : w.disk.list path with e | children
    · refine ⟨w.messages ++ [readFailure path e], ?_⟩
      rw [visit, bind_apply, get_apply]
      simp only [hl, Disk.isFile_of_list_error hfirm hl, if_true]
      rfl
    · refine ⟨w.messages, ?_⟩
      rw [visit, bind_apply, get_apply]
      simp only [hl]
      rfl

/-- A view that is met gives the page that is built for it, if there is one. -/
theorem visit_view {path : String} {target : Option String} {w w' : World}
    (hbuild : buildView path w = (.ok target, w')) :
    visit (.view path) w = (.ok (target.toList.filter fun p => !p.isEmpty), w') := by
  rw [visit, bind_apply, hbuild]
  rfl

/-- What is met first gives its pages, and the others give theirs in the world that it leaves. -/
theorem visitAll_cons {v : Visit} {plan : List Visit} {written rest : List String} {w w₁ w₂ : World}
    (hvisit : visit v w = (.ok written, w₁)) (hrest : visitAll plan w₁ = (.ok rest, w₂)) :
    visitAll (v :: plan) w = (.ok (written ++ rest), w₂) := by
  rw [visitAll, bind_apply, hvisit]
  simp only
  rw [bind_apply, hrest]
  rfl

/-- Dealing with one thing that a walk meets keeps what building a view keeps. -/
theorem Undisturbed.of_visitWith {opts : Options} {root : String} {keeps : World → Prop}
    (hkeeps : Undisturbed d opts root keeps) (build : String → Running (Option String)) (v : Visit)
    {w w' : World} {r : List String} (hw : keeps w)
    (hbuild : ∀ view, v = .view view → ∀ r w', build view w = (.ok r, w') → keeps w')
    (hr : visitWith build v w = (.ok r, w')) : keeps w' := by
  cases v with
  | view path =>
    obtain ⟨written, w₁, hb, hr⟩ := exists_of_bind_ok hr
    obtain rfl : w₁ = w' := (Prod.ext_iff.mp hr).2
    exact hbuild path rfl written w₁ hb
  | skip path =>
    obtain ⟨messages, hdetail⟩ := detail_apply ("Skipping " ++ Style.path path) w
    rw [visitWith, visit, bind_apply, hdetail] at hr
    obtain rfl : { w with messages := messages } = w' := (Prod.ext_iff.mp hr).2
    exact hkeeps.messages w messages hw
  | unreadable path =>
    rw [visitWith, visit, bind_apply, get_apply] at hr
    rcases hl : w.disk.list path with e | children
    · simp only [hl] at hr
      split at hr
      · obtain rfl : { w with messages := _ } = w' := (Prod.ext_iff.mp hr).2
        exact hkeeps.messages w _ hw
      · rw [throw_apply] at hr
        exact absurd (Prod.ext_iff.mp hr).1 (by simp)
    · simp only [hl] at hr
      obtain rfl : w = w' := (Prod.ext_iff.mp hr).2
      exact hw

/-- A part for the first of some values, and then the parts for the others. -/
theorem mapM_flatten_cons (f : String → Running (List String)) (c : String) (cs : List String) :
    (do
        let written ← (c :: cs).mapM f
        pure written.flatten) = (do
        let first ← f c
        let rest ← (do
          let written ← cs.mapM f
          pure written.flatten : Running (List String))
        pure (first ++ rest)) := by
  simp only [List.mapM_cons, bind_assoc, pure_bind, List.flatten_cons]

/-- Parts of a walk, each of which follows its plan, follow their plans one after another. -/
theorem mapM_flatten_eq {keeps : World → Prop} {f : String → Running (List String)}
    {plan : String → List Visit} {cs : List String}
    (hstep : ∀ c ∈ cs, ∀ w, keeps w → f c w = visitAllWith build (plan c) w ∧
      ∀ r w', f c w = (.ok r, w') → keeps w') {w : World} (hw : keeps w) :
    (do
        let written ← cs.mapM f
        pure written.flatten : Running (List String)) w = visitAllWith build (cs.flatMap plan) w ∧
      ∀ r w', (do
        let written ← cs.mapM f
        pure written.flatten : Running (List String)) w = (.ok r, w') → keeps w' := by
  induction cs generalizing w with
  | nil =>
    refine ⟨by simp [visitAllWith], fun r w' hr => ?_⟩
    obtain rfl : w = w' := (Prod.ext_iff.mp hr).2
    exact hw
  | cons c cs ih =>
    have hrest : ∀ x ∈ cs, ∀ w, keeps w → f x w = visitAllWith build (plan x) w ∧
        ∀ r w', f x w = (.ok r, w') → keeps w' := fun x hx => hstep x (List.mem_cons_of_mem _ hx)
    have hwalk := fun w₁ hw₁ => ih hrest (w := w₁) hw₁
    obtain ⟨hplan, hkeeps⟩ := hstep c List.mem_cons_self w hw
    rw [mapM_flatten_cons, List.flatMap_cons, visitAllWith_append]
    generalize (do
      let written ← cs.mapM f
      pure written.flatten : Running (List String)) = rest at hwalk ⊢
    refine ⟨?_, fun r w' hr => ?_⟩
    · rw [bind_apply, bind_apply, ← hplan]
      rcases hc : f c w with ⟨e | first, w₁⟩
      · rfl
      · simp only
        rw [bind_apply, bind_apply, (hwalk w₁ (hkeeps first w₁ hc)).1]
    · obtain ⟨first, w₁, hc, hr⟩ := exists_of_bind_ok hr
      obtain ⟨others, w₂, hothers, hr⟩ := exists_of_bind_ok hr
      obtain rfl : w₂ = w' := (Prod.ext_iff.mp hr).2
      exact (hwalk w₁ (hkeeps first w₁ hc)).2 others w₂ hothers

/-- One step of a walk with any builder of views, once it is known where it goes. -/
theorem walkAtWith_succ {opts : Options} {w : World} {entry : String} {base : Option String}
    (hopts : options w.disk w.project.configDir = .ok opts)
    (hentry : entryPath w.disk.cwd entry (walkBase opts base) = .ok path) (n : Nat) :
    walkAtWith build (n + 1) entry base w =
      if hasEnding path opts.ext then visitWith build (.view path) w
      else if w.disk.isFile path then visit (.skip path) w
      else match w.disk.list path with
        | .ok children =>
          (do
            let written ← children.reverse.mapM fun child => walkAtWith build n child (some path)
            pure written.flatten : Running (List String)) w
        | .error _ => visit (.unreadable path) w := by
  rw [walkAtWith, bind_apply, currentOptions_apply hopts]
  simp only
  rw [bind_apply, get_apply]
  simp only [hentry]
  rw [Running.ofExcept, bind_apply, pure_apply]
  simp only
  split
  · rfl
  rw [bind_apply, get_apply]
  simp only
  split
  · rfl
  rw [bind_apply, get_apply]
  simp only
  rcases hl : w.disk.list path with e | children
  · rw [visit, bind_apply, get_apply]
    simp only [hl]
  · rfl

/-- One step of a walk, once it is known where it goes. -/
theorem walkAt_succ {opts : Options} {w : World} {entry : String} {base : Option String}
    (hopts : options w.disk w.project.configDir = .ok opts)
    (hentry : entryPath w.disk.cwd entry (walkBase opts base) = .ok path) (n : Nat) :
    walkAt (n + 1) entry base w =
      if hasEnding path opts.ext then visit (.view path) w
      else if w.disk.isFile path then visit (.skip path) w
      else match w.disk.list path with
        | .ok children =>
          (do
            let written ← children.reverse.mapM fun child => walkAt n child (some path)
            pure written.flatten : Running (List String)) w
        | .error _ => visit (.unreadable path) w := by
  rw [← walkAtWith_buildView, ← visitWith_buildView]
  exact walkAtWith_succ hopts hentry n

/-- A walk that is disturbed by nothing, not even by the views that it builds, follows its plan, however it
builds them. The induction is on the number of nested directories, which the depth of the disk bounds. -/
theorem walkAtWith_eq (build : String → Running (Option String)) {opts : Options} {root : String}
    {keeps : World → Prop} (hd : d.WellFormed) (hroot : d.Firm root) (hcwd : Outside d.cwd opts.views)
    (hviews : place opts.views <+: place root) (hext : opts.ext = templateExt)
    (hkeeps : Undisturbed d opts root keeps) {n : Nat} (hn : 0 < n)
    {names : List String} (hnames : ∀ c ∈ names, Disk.EntryName c)
    (hfuel : d.entries.length < n + (place (below root names)).length) {entry : String}
    {base : Option String}
    (hentry : entryPath d.cwd entry (walkBase opts base) = .ok (below root names)) {w : World}
    (hw : keeps w)
    (hbuild : ∀ view, .view view ∈ visits d n (below root names) → ∀ w, keeps w →
      ∀ r w', build view w = (.ok r, w') → keeps w') :
    walkAtWith build n entry base w = visitAllWith build (visits d n (below root names)) w ∧
      ∀ r w', walkAtWith build n entry base w = (.ok r, w') → keeps w' := by
  induction n generalizing names entry base w with
  | zero => omega
  | succ n ih =>
    have hfirm : d.Firm (below root names) := hroot.below fun c hc =>
      ⟨(hnames c hc).toIsName, (hnames c hc).null⟩
    have hlist := fun children => hkeeps.list w names children hw hnames
    rw [walkAtWith_succ (hkeeps.options w hw) (by rw [hkeeps.cwd w hw]; exact hentry), hext,
      hkeeps.isFile w names hw hnames]
    rw [visits] at hbuild ⊢
    split
    · next hending =>
      rw [if_pos hending] at hbuild
      rw [visitAllWith_singleton]
      exact ⟨rfl, fun r w' => hkeeps.of_visitWith build (.view _) hw fun view hview =>
        hbuild view (List.mem_singleton.mpr hview.symm) w hw⟩
    next hending =>
    split
    · rw [visitAllWith_singleton]
      exact ⟨rfl, fun r w' => hkeeps.of_visitWith build (.skip _) hw nofun⟩
    next hfile =>
    rw [if_neg hending, if_neg hfile] at hbuild
    rcases hl : d.list (below root names) with e | children
    · -- what cannot be read at first cannot be read later
      rcases hl' : w.disk.list (below root names) with e' | children
      · simp only
        rw [visitAllWith_singleton]
        exact ⟨rfl, fun r w' => hkeeps.of_visitWith build (.unreadable _) hw nofun⟩
      · rw [(hlist children).mp hl'] at hl
        exact absurd hl (by simp)
    · rw [hl] at hbuild
      rw [(hlist children).mpr hl]
      refine mapM_flatten_eq (fun c hc w₁ hw₁ => ?_) hw
      have hmem := List.mem_reverse.mp hc
      have hname := Disk.entryName_of_mem_list hd hl hmem
      obtain ⟨hn', hfuel'⟩ := Disk.depth_of_mem_list hd hfirm hl hmem hfuel
      have hnames' : ∀ x ∈ names ++ [c], Disk.EntryName x := by
        intro x hx
        rcases List.mem_append.mp hx with hx | hx
        · exact hnames x hx
        · rw [List.mem_singleton.mp hx]
          exact hname
      have hentry' := entryPath_below hcwd hroot.absolute hviews (fun x hx => (hnames x hx).toIsName)
        hname.toIsName
      rw [← below_concat] at hfuel' ⊢
      refine ih hn' hnames' hfuel' hentry' hw₁ fun view hview => hbuild view ?_
      rw [below_concat] at hview
      exact List.mem_flatMap.mpr ⟨c, hc, hview⟩

/-- A walk that is disturbed by nothing, not even by the views that it builds, follows its plan. -/
theorem walkAt_eq {opts : Options} {root : String} {keeps : World → Prop} (hd : d.WellFormed)
    (hroot : d.Firm root) (hcwd : Outside d.cwd opts.views) (hviews : place opts.views <+: place root)
    (hext : opts.ext = templateExt) (hkeeps : Undisturbed d opts root keeps) {n : Nat} (hn : 0 < n)
    {names : List String} (hnames : ∀ c ∈ names, Disk.EntryName c)
    (hfuel : d.entries.length < n + (place (below root names)).length) {entry : String}
    {base : Option String}
    (hentry : entryPath d.cwd entry (walkBase opts base) = .ok (below root names)) {w : World}
    (hw : keeps w)
    (hbuild : ∀ view, .view view ∈ visits d n (below root names) → ∀ w, keeps w →
      ∀ r w', buildView view w = (.ok r, w') → keeps w') :
    walkAt n entry base w = visitAll (visits d n (below root names)) w ∧
      ∀ r w', walkAt n entry base w = (.ok r, w') → keeps w' := by
  rw [← walkAtWith_buildView, ← visitAllWith_buildView]
  exact walkAtWith_eq buildView hd hroot hcwd hviews hext hkeeps hn hnames hfuel hentry hw hbuild

end StaticSite
