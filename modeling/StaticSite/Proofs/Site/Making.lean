import StaticSite.Proofs.Site.View

/-!
# Making a page and auditing it

Building a view is making its page and auditing the page that was made. A page that was made tells how: the
options were read, the view is named like one, it compiled, and the page that it gives was put where the view's
page goes.

## Main definitions

* `makePage`: compile a view and write its page.
* `auditMade`: audit a page that was made, where pages are audited.

## Main results

* `buildView_eq`: building a view is the one and then the other.
* `exists_of_writePage`, `exists_of_makePage`: how a page was made.
* `Disk.isName_of_putPage`: a page that was made has a name.
-/

namespace StaticSite

open Running

/-- Compile a view and write its page; anything but a template is no view. -/
def makePage (path : String) : Running (Option String) := do
  let opts ← currentOptions
  if !Path.hasEnding path opts.ext then pure none
  else
    let compiled ← Running.compile fun site => compile site .template path (.ok .none) #[]
    writePage path compiled

/-- Audit a page that was made, where pages are audited, and say where it is. -/
def auditMade (target : Option String) : Running (Option String) := do
  match target with
  | some page =>
    if (← get).project.audit && !page.isEmpty then
      let _ ← auditPage page
  | none => pure ()
  pure target

/-- Building a view is making its page and auditing it. -/
theorem buildView_eq (path : String) : buildView path = makePage path >>= auditMade := by
  rw [buildView, makePage, bind_assoc]
  congr 1
  funext opts
  split
  · rfl
  · rw [bind_assoc]
    rfl

variable {w w' : World} {opts : Options} {path source page text : String}

/-- Where pages are not audited, what was made is all. -/
theorem auditMade_of_off (haudit : w.project.audit = false) (target : Option String) :
    auditMade target w = (.ok target, w) := by
  cases target with
  | none => rfl
  | some page =>
    rw [auditMade]
    simp only
    rw [bind_apply, get_apply]
    simp only [haudit, Bool.false_and]
    rfl

/-! ### How a page was made -/

/-- A run that comes to a result leaves a world. -/
theorem exists_of_result {α : Type} {c : Running α} {a : α} (h : (c w).1 = .ok a) :
    ∃ w', c w = (.ok a, w') := by
  rcases hc : c w with ⟨r, w'⟩
  rw [hc] at h
  cases h
  exact ⟨w', rfl⟩

/-- A result that needed no run is the result. -/
theorem exists_of_ofExcept {α : Type} {r : Except Failure α} {a : α}
    (h : Running.ofExcept r w = (.ok a, w')) : r = .ok a ∧ w' = w := by
  cases r with
  | error e => exact absurd (Prod.ext_iff.mp h).1 (by rw [Running.ofExcept, throw_apply]; simp)
  | ok b => exact ⟨(Prod.ext_iff.mp h).1, (Prod.ext_iff.mp h).2.symm⟩

/-- What came out of a part whose failures are reported came out of the part. -/
theorem of_orReport {α : Type} {target : String} {body : Running α} {a : α}
    (h : orReport target source body w = (.ok (some a), w')) : body w = (.ok a, w') := by
  rw [orReport_apply] at h
  rcases hbody : body w with ⟨e | b, w₁⟩
  · rw [hbody] at h
    simp only at h
    split at h
    · exact absurd (Prod.ext_iff.mp h).1 (by simp)
    · exact absurd (Prod.ext_iff.mp h).1 (by simp)
  · rw [hbody] at h
    cases h
    rfl

/-- The options that were found are those of the disk. -/
theorem exists_of_currentOptions (h : currentOptions w = (.ok opts, w')) :
    options w.disk w.project.configDir = .ok opts ∧ w' = w := by
  rw [currentOptions, bind_apply, get_apply] at h
  exact exists_of_ofExcept h

/-- A page that was written was accepted by the beautifier and put on the disk. -/
theorem exists_of_writeTo {target : String} (h : writeTo opts target text w = (.ok (), w')) :
    ∃ page, beautifyBy opts.beautifying text = .ok page ∧
      w.disk.putPage target page = (w'.disk, .ok ()) := by
  rcases hbeautify : beautifyBy opts.beautifying text with e | page
  · have hfail : beautifyBy ((opts.setting? "beautify").getD .null) text = .error e := hbeautify
    rw [writeTo] at h
    simp only [hfail] at h
    obtain ⟨_, w₁, -, h⟩ := exists_of_bind_ok h
    obtain ⟨page, w₂, h, -⟩ := exists_of_bind_ok h
    exact absurd (exists_of_ofExcept h).1 (by simp)
  · rw [writeTo_apply hbeautify] at h
    rcases hput : w.disk.putPage target page with ⟨d, r⟩
    rw [hput] at h
    cases h
    exact ⟨page, rfl, hput⟩

/-- How a page was written. -/
theorem exists_of_writePage {data : Option String}
    (h : writePage source data w = (.ok (some page), w')) :
    ∃ text opts printed, data = some text ∧ options w.disk w.project.configDir = .ok opts ∧
      opts.layout.destination w.disk.cwd source = .ok page ∧
      beautifyBy opts.beautifying text = .ok printed ∧
      w.disk.putPage page printed = (w'.disk, .ok ()) := by
  cases data with
  | none => exact absurd (Prod.ext_iff.mp h).1 (by simp [writePage_none])
  | some text =>
    rw [writePage] at h
    obtain ⟨found, w₁, hfound, hrest⟩ := exists_of_bind_ok h
    cases found with
    | none => exact absurd (Prod.ext_iff.mp hrest).1 (by simp [pure_apply])
    | some opts =>
      obtain ⟨hopts, rfl⟩ := exists_of_currentOptions (of_orReport hfound)
      simp only at hrest
      rw [bind_apply, get_apply] at hrest
      simp only at hrest
      obtain ⟨target, _, htarget, hwritten⟩ := exists_of_bind_ok hrest
      obtain ⟨htarget, rfl⟩ := exists_of_ofExcept htarget
      obtain ⟨done, w₂, hdone, hreport⟩ := exists_of_bind_ok hwritten
      cases done with
      | none => exact absurd (Prod.ext_iff.mp hreport).1 (by simp [pure_apply])
      | some _ =>
        obtain ⟨printed, hprinted, hput⟩ := exists_of_writeTo (of_orReport hdone)
        cases hreport
        exact ⟨text, opts, printed, rfl, hopts, htarget, hprinted, hput⟩

/-- How a page was made: the view is named like one, and the page is on the disk where it goes. -/
theorem exists_of_makePage (h : makePage path w = (.ok (some page), w')) :
    ∃ opts printed, options w.disk w.project.configDir = .ok opts ∧
      Path.hasEnding path opts.ext = true ∧ opts.layout.destination w.disk.cwd path = .ok page ∧
      w.disk.putPage page printed = (w'.disk, .ok ()) := by
  rw [makePage] at h
  obtain ⟨opts, w₁, hfound, hmade⟩ := exists_of_bind_ok h
  obtain ⟨hopts, rfl⟩ := exists_of_currentOptions hfound
  by_cases hending : Path.hasEnding path opts.ext = true
  · simp only [hending, Bool.not_true, Bool.false_eq_true, if_false] at hmade
    obtain ⟨compiled, w₂, hcompile, hwrite⟩ := exists_of_bind_ok hmade
    obtain ⟨text, opts', printed, -, hopts', htarget, -, hput⟩ := exists_of_writePage hwrite
    -- a compilation leaves the disk and the project alone
    rw [compile_apply] at hcompile
    obtain ⟨-, rfl⟩ := Prod.ext_iff.mp hcompile
    obtain rfl := Except.ok.inj (hopts.symm.trans hopts')
    exact ⟨opts, printed, hopts, hending, htarget, hput⟩
  · simp only [hending, Bool.not_false, if_true] at hmade
    cases hmade

/-- A page that was put on the disk has a name. -/
theorem Disk.isName_of_putPage {d d' : Disk} {target text : String} (hd : d.WellFormed)
    (h : d.putPage target text = (d', .ok ())) : Path.IsName (Path.baseName target) := by
  have hmade := grown_makeFolders_anywhere hd (directoryOf target)
  unfold putPage at h
  rcases hr : d.makeFolders (directoryOf target) with ⟨made, e | _⟩
  · rw [hr] at h
    exact absurd (Prod.ext_iff.mp h).2 (by simp)
  · rw [hr] at h hmade
    simp only at h
    rcases hw : made.writeText target text with e | written
    · rw [hw] at h
      exact absurd (Prod.ext_iff.mp h).2 (by simp)
    · obtain ⟨p, -, -, hnames, -, -, -, -, hlast⟩ := exists_of_writeText (hmade.wellFormed hd) hw
      exact (hnames _ (List.mem_of_getLast? hlast)).1

/-- A page that was audited is the page that was made. -/
theorem eq_of_auditMade {made : Option String} {r : Option String} (h : auditMade made w = (.ok r, w')) :
    r = made := by
  cases made with
  | none =>
    cases h
    rfl
  | some page =>
    rw [auditMade] at h
    simp only at h
    rw [bind_apply, get_apply] at h
    simp only at h
    split at h
    · obtain ⟨_, w₁, -, hreturn⟩ := exists_of_bind_ok h
      cases hreturn
      rfl
    · cases h
      rfl

/-- A view that was built has its page made. -/
theorem exists_of_buildView {target : Option String} (h : buildView path w = (.ok target, w')) :
    ∃ w₁, makePage path w = (.ok target, w₁) ∧ auditMade target w₁ = (.ok target, w') := by
  rw [buildView_eq] at h
  obtain ⟨made, w₁, hmade, haudit⟩ := exists_of_bind_ok h
  obtain rfl := eq_of_auditMade haudit
  exact ⟨w₁, hmade, haudit⟩

end StaticSite
