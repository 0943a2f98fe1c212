import StaticSite.Proofs.Site.View

/-!
# Delivering pages

A build delivers one page after another. The pages of a build do not get into each other's way as long
as no page is to stand where another one, or a folder above it, is to stand: each is delivered as if it
were the only one. Delivering all of them again changes nothing.

## Main definitions

* `Disk.deliverAll`: deliver pages one after another.
* `Disk.fileAt?`: the content of the file at a place.
* `Apart`: two targets that do not get into each other's way.

## Main results

* `Disk.delivered`: what delivering a page leaves behind.
* `Disk.deliver_leaves`: what it leaves behind on any path.
* `Disk.deliverAll_eq`: pages that are apart are delivered as if each were the only one.
* `Disk.deliverAll_again`: delivering pages again changes nothing.
-/

namespace StaticSite

open Path

namespace Disk

variable {d d' e : Disk} {target : String} {page : Option String}

/-! ### Files -/

/-- The content of the file at a place. -/
def fileAt? (d : Disk) (p : Place) : Option Content :=
  match d.get? p with
  | some (.file c) => some c
  | _ => none

theorem fileAt?_eq_some {p : Place} {c : Content} :
    d.fileAt? p = some c ↔ d.get? p = some (.file c) := by
  rw [fileAt?]
  constructor
  · intro h
    split at h
    · next he =>
      rw [he, Option.some.inj h]
    · exact absurd h (by simp)
  · intro h
    rw [h]

/-- What was not written holds what it held. -/
theorem Grown.fileAt?_eq {made written : Place → Prop} (h : Grown made written d d') {p : Place}
    (hp : ¬written p) : d'.fileAt? p = d.fileAt? p := by
  refine Option.ext fun c => ?_
  rw [fileAt?_eq_some, fileAt?_eq_some]
  constructor
  · exact fun hc => (h.file_of hc).resolve_right hp
  · intro hc
    obtain ⟨c', hc', rfl | hwritten⟩ := h.file p c hc
    · exact hc'
    · exact absurd hwritten hp

/-! ### One page -/

/-- What delivering a page leaves behind. -/
structure Delivered (d : Disk) (target : String) (page : Option String)
    (r : Disk × Option String) : Prop where
  /-- Folders were made above the page, and the page was written if it was delivered. -/
  grown : Grown (· <+: place (Path.parent target)) (fun q => q = place target ∧ r.2 = some target)
    d r.1
  /-- A page goes to its target or nowhere. -/
  outcome : r.2 = some target ∨ r.2 = none
  /-- It is delivered if there is one and it can be written. -/
  ok_iff : r.2 = some target ↔ page.isSome ∧ d.Writable target
  /-- The page that was delivered is there. -/
  content : r.2 = some target → ∃ text, page = some text ∧
    r.1.get? (place target) = some (.file (.text text))

/-- What delivering a page leaves behind. -/
theorem delivered (hd : d.WellFormed) (h : d.Firm target) (page : Option String) :
    Delivered d target page (d.deliver target page) := by
  cases page with
  | none =>
    have hnone : d.deliver target none = (d, none) := rfl
    rw [hnone]
    exact ⟨.refl _ _ d, .inr rfl, by simp, fun hf => by simp at hf⟩
  | some text =>
    have hput := pagePut hd h text
    rcases hr : d.putPage target text with ⟨d', e | _⟩
    · rw [hr] at hput
      rw [deliver_of_error hr]
      refine ⟨hput.grown.mono (fun _ _ => id) fun q hq => by simp at hq, .inr rfl, ?_,
        fun hf => by simp at hf⟩
      refine ⟨fun hf => by simp at hf, fun hw => ?_⟩
      exact absurd (hput.ok_iff.mpr hw.2) (by simp)
    · rw [hr] at hput
      rw [deliver_of_ok hr]
      exact ⟨hput.grown.mono (fun _ _ => id) fun q hq => ⟨hq.1, rfl⟩, .inl rfl,
        ⟨fun _ => ⟨rfl, hput.ok_iff.mp rfl⟩, fun _ => rfl⟩, fun _ => ⟨text, rfl, hput.content rfl⟩⟩

/-- Where a page goes depends on the disk only by whether the page can be written there. -/
theorem Delivered.goes_eq {r r' : Disk × Option String} (hr : Delivered d target page r)
    (hr' : Delivered d' target page r') (hw : d'.Writable target ↔ d.Writable target) :
    r'.2 = r.2 := by
  have hiff : r'.2 = some target ↔ r.2 = some target := by rw [hr'.ok_iff, hr.ok_iff, hw]
  rcases hr.outcome with hok | hnone
  · rw [hok, hiff.mpr hok]
  · rw [hnone]
    refine hr'.outcome.resolve_left fun hok => ?_
    rw [hiff.mp hok] at hnone
    exact absurd hnone (by simp)

/-- A page that goes to its target from two disks holds the same on both. -/
theorem Delivered.get?_eq {r r' : Disk × Option String} (hr : Delivered d target page r)
    (hr' : Delivered d' target page r') (hok : r.2 = some target) (hok' : r'.2 = some target) :
    r'.1.get? (place target) = r.1.get? (place target) := by
  obtain ⟨text, hpage, hcontent⟩ := hr.content hok
  obtain ⟨text', hpage', hcontent'⟩ := hr'.content hok'
  obtain rfl : text' = text := Option.some.inj (hpage'.symm.trans hpage)
  rw [hcontent', hcontent]

/-- What delivering a page leaves behind, whatever leads to it: folders are made where its path leads, and
nothing is written unless the page is there then. -/
theorem deliver_leaves (hd : d.WellFormed) (habsolute : isAbsolute target = true)
    (page : Option String) :
    ∃ d' r, d.deliver target page = (d', r) ∧
      Grown (Leads target) (fun q => q = place target ∧ r = some target) d d' ∧
      (r = none ∨ r = some target ∧
        ∃ text, page = some text ∧ d'.get? (place target) = some (.file (.text text))) := by
  cases page with
  | none => exact ⟨d, none, rfl, .refl _ _ d, .inl rfl⟩
  | some text =>
    obtain ⟨d', r, hput, hgrown, hthere⟩ := putPage_leaves hd habsolute text
    rcases r with e | _
    · exact ⟨d', none, deliver_of_error hput,
        hgrown.mono (fun _ _ => id) fun q hq => by simp at hq, .inl rfl⟩
    · exact ⟨d', some target, deliver_of_ok hput,
        hgrown.mono (fun _ _ => id) fun q hq => ⟨hq.1, rfl⟩, .inr ⟨rfl, text, rfl, hthere rfl⟩⟩

/-- Delivering a page again, on a disk that has grown and still holds it, changes nothing. -/
theorem deliver_again (hd : d.WellFormed) (h : d.Firm target)
    (hlater : Later (d.deliver target page).1 e)
    (hkept : ∀ c, (d.deliver target page).1.get? (place target) = some (.file c) →
      e.get? (place target) = some (.file c)) :
    e.deliver target page = (e, (d.deliver target page).2) := by
  cases page with
  | none => rfl
  | some text =>
    have hput := pagePut hd h text
    rcases hr : d.putPage target text with ⟨d', fault | _⟩
    · rw [hr] at hput
      rw [deliver_of_error hr] at hlater ⊢
      have hagain := @putPage_again d e target text hd h
        (by rw [hr]; exact hlater) (by rw [hr]; simp)
      rw [hr] at hagain
      rcases hr' : e.putPage target text with ⟨e', fault' | _⟩
      · rw [hr'] at hagain
        rw [deliver_of_error hr', ← hagain.1]
      · rw [hr'] at hagain
        exact absurd (hagain.2.mp rfl) (by simp)
    · rw [hr] at hput
      rw [deliver_of_ok hr] at hlater hkept ⊢
      have hagain := @putPage_again d e target text hd h
        (by rw [hr]; exact hlater) (fun _ => hkept _ (hput.content rfl))
      rw [hr] at hagain
      rcases hr' : e.putPage target text with ⟨e', fault' | _⟩
      · rw [hr'] at hagain
        exact absurd (hagain.2.mpr rfl) (by simp)
      · rw [hr'] at hagain
        rw [deliver_of_ok hr', ← hagain.1]

/-! ### Pages one after another -/

/-- Deliver pages one after another: the disk, and where pages went. -/
def deliverAll (d : Disk) : List (String × Option String) → Disk × List String
  | [] => (d, [])
  | (target, page) :: jobs =>
    ((deliverAll (d.deliver target page).1 jobs).1,
      (d.deliver target page).2.toList ++ (deliverAll (d.deliver target page).1 jobs).2)

variable {jobs : List (String × Option String)}

/-- Delivering pages is growth: folders above them, and the pages. -/
theorem deliverAll_grown (hd : d.WellFormed) (h : ∀ job ∈ jobs, d.Firm job.1) :
    Grown (fun q => ∃ job ∈ jobs, q <+: place (Path.parent job.1))
      (fun q => ∃ job ∈ jobs, q = place job.1) d (d.deliverAll jobs).1 := by
  induction jobs generalizing d with
  | nil => exact .refl _ _ d
  | cons job jobs ih =>
    obtain ⟨target, page⟩ := job
    have hfirst := (delivered hd (h _ List.mem_cons_self) page).grown
    have hrest := ih (hfirst.wellFormed hd) fun job hjob =>
      (h job (List.mem_cons_of_mem _ hjob)).mono hfirst.folder
    refine (hfirst.mono (fun q _ hq => ?_) fun q hq => ?_).trans
      (hrest.mono (fun q _ hq => ?_) fun q hq => ?_)
    · exact ⟨_, List.mem_cons_self, hq⟩
    · exact ⟨_, List.mem_cons_self, hq.1⟩
    · obtain ⟨job, hjob, hq⟩ := hq
      exact ⟨job, List.mem_cons_of_mem _ hjob, hq⟩
    · obtain ⟨job, hjob, hq⟩ := hq
      exact ⟨job, List.mem_cons_of_mem _ hjob, hq⟩

/-- A file stays as it is while pages with other places are delivered. -/
theorem deliverAll_get? {p : Place} {c : Content} (hd : d.WellFormed)
    (h : ∀ job ∈ jobs, d.Firm job.1) (hp : ∀ job ∈ jobs, p ≠ place job.1)
    (hc : d.get? p = some (.file c)) : (d.deliverAll jobs).1.get? p = some (.file c) := by
  refine ((deliverAll_grown hd h).get?_of_isSome (by simp [hc]) ?_).trans hc
  rintro ⟨job, hjob, heq⟩
  exact hp job hjob heq

/-- A page that went where it was to go was there to be delivered, could be written from the beginning,
and is there in the end, if the pages have different places. The induction carries this over the pages
delivered after it. -/
theorem deliverAll_page (hd : d.WellFormed) (h : ∀ job ∈ jobs, d.Firm job.1)
    (hplaces : jobs.Pairwise fun job job' => place job.1 ≠ place job'.1)
    (hpage : target ∈ (d.deliverAll jobs).2) :
    ∃ text, (target, some text) ∈ jobs ∧ d.Writable target ∧
      (d.deliverAll jobs).1.get? (place target) = some (.file (.text text)) := by
  induction jobs generalizing d with
  | nil => exact absurd hpage List.not_mem_nil
  | cons job jobs ih =>
    obtain ⟨first, page⟩ := job
    rw [List.pairwise_cons] at hplaces
    have hone := delivered hd (h _ List.mem_cons_self) page
    have hd' := hone.grown.wellFormed hd
    have hfirm : ∀ job ∈ jobs, (d.deliver first page).1.Firm job.1 := fun job hjob =>
      (h job (List.mem_cons_of_mem _ hjob)).mono hone.grown.folder
    rw [deliverAll, List.mem_append] at hpage
    rcases hpage with hpage | hpage
    · -- it is the first one, and no later page has its place
      rcases hone.outcome with hok | hnone
      · rw [hok, Option.toList_some, List.mem_singleton] at hpage
        subst hpage
        obtain ⟨text, rfl, hcontent⟩ := hone.content hok
        refine ⟨text, List.mem_cons_self, (hone.ok_iff.mp hok).2, ?_⟩
        rw [deliverAll, deliverAll_get? hd' hfirm hplaces.1 hcontent]
      · rw [hnone] at hpage
        exact absurd hpage List.not_mem_nil
    · obtain ⟨text, hjob, hwritable, hcontent⟩ := ih hd' hfirm hplaces.2 hpage
      exact ⟨text, List.mem_cons_of_mem _ hjob, hwritable.of_later hone.grown.later, hcontent⟩

/-- Delivering pages with different places again, on a disk that has grown and still holds what was
delivered, changes nothing, and they go where they went. -/
theorem deliverAll_again (hd : d.WellFormed) (h : ∀ job ∈ jobs, d.Firm job.1)
    (hplaces : jobs.Pairwise fun job job' => place job.1 ≠ place job'.1)
    (hlater : Later (d.deliverAll jobs).1 e)
    (hkept : ∀ q c, (d.deliverAll jobs).1.get? q = some (.file c) → e.get? q = some (.file c)) :
    e.deliverAll jobs = (e, (d.deliverAll jobs).2) := by
  induction jobs generalizing d with
  | nil => rfl
  | cons job jobs ih =>
    obtain ⟨target, page⟩ := job
    rw [List.pairwise_cons] at hplaces
    have htarget := h _ List.mem_cons_self
    have hfirst := (delivered hd htarget page).grown
    have hd' := hfirst.wellFormed hd
    have hfirm : ∀ job ∈ jobs, (d.deliver target page).1.Firm job.1 := fun job hjob =>
      (h job (List.mem_cons_of_mem _ hjob)).mono hfirst.folder
    have hrest := deliverAll_grown hd' hfirm
    -- no later page has the same place
    rw [deliverAll] at hkept hlater
    have hsame : e.deliver target page = (e, (d.deliver target page).2) :=
      deliver_again hd htarget (hrest.later.trans hlater) fun c hc =>
        hkept _ c (deliverAll_get? hd' hfirm hplaces.1 hc)
    have hall := ih hd' hfirm hplaces.2 hlater hkept
    rw [deliverAll, hsame, hall, deliverAll]

end Disk

/-! ### Pages that are apart -/

/-- Two targets, written one after the other, do not get into each other's way. -/
structure Apart (target target' : String) : Prop where
  /-- The first is not at or above the second. -/
  page : ¬place target <+: place target'
  /-- The second is not at or above the folder of the first. -/
  folder : ¬place target' <+: place (parent target)

namespace Disk

variable {d d' : Disk} {target : String} {jobs : List (String × Option String)}
  {made written : Place → Prop}

/-- A page can be written after growth elsewhere exactly if it could be before. -/
theorem Grown.writable_iff (hg : Grown made written d d') (hmade : ¬made (place target))
    (hwritten : ∀ q, written q → ¬q <+: place target) : d'.Writable target ↔ d.Writable target := by
  refine ⟨.of_later hg.later, fun hw => ⟨hw.name, hw.short, hw.shortName, fun hb => hw.parent ?_,
    fun hf => hw.file ?_⟩⟩
  · rcases hb with ⟨q, hq, c, hc⟩ | hlong
    · refine .inl ⟨q, hq, c, (hg.file_of hc).resolve_right fun hq' => hwritten q hq' ?_⟩
      rw [place_eq_append hw.name]
      exact hq.trans (List.prefix_append _ _)
    · exact .inr hlong
  · exact (hg.folder_of hf).resolve_right fun h => hmade h.2

/-- Pages that are apart are delivered as if each were the only one: they go where they would go
alone, and those that do are there in the end. The induction keeps what was touched so far apart from
the pages still to come. -/
theorem deliverAll_eq (hd : d.WellFormed) (h : ∀ job ∈ jobs, d.Firm job.1)
    (hapart : jobs.Pairwise fun job job' => Apart job.1 job'.1) (hg : Grown made written d d')
    (hmade : ∀ job ∈ jobs, ¬made (place job.1))
    (hwritten : ∀ job ∈ jobs, ∀ q, written q → ¬q <+: place job.1) :
    (d'.deliverAll jobs).2 = jobs.filterMap (fun job => (d.deliver job.1 job.2).2) ∧
      Grown (fun q => made q ∨ ∃ job ∈ jobs, q <+: place (Path.parent job.1))
        (fun q => written q ∨ ∃ job ∈ jobs, q = place job.1 ∧ (d.deliver job.1 job.2).2 = some job.1)
        d (d'.deliverAll jobs).1 ∧
      ∀ job ∈ jobs, (d.deliver job.1 job.2).2 = some job.1 →
        (d'.deliverAll jobs).1.get? (place job.1) = (d.deliver job.1 job.2).1.get? (place job.1) := by
  induction jobs generalizing d' made written with
  | nil =>
    refine ⟨rfl, hg.mono (fun q _ => .inl) fun q => .inl, fun job hjob => ?_⟩
    exact absurd hjob List.not_mem_nil
  | cons job jobs ih =>
    obtain ⟨target, page⟩ := job
    rw [List.pairwise_cons] at hapart
    have htarget := h _ List.mem_cons_self
    have hd' := hg.wellFormed hd
    have hone := delivered hd htarget page
    have hone' := delivered hd' (htarget.mono hg.folder) page
    have hwritable := hg.writable_iff (hmade _ List.mem_cons_self) (hwritten _ List.mem_cons_self)
    have hsame : (d'.deliver target page).2 = (d.deliver target page).2 := hone.goes_eq hone' hwritable
    have hstep := hg.trans_of hone'.grown
    rw [hsame] at hstep
    have hrestFirm : ∀ job ∈ jobs, d.Firm job.1 := fun job hjob => h job (List.mem_cons_of_mem _ hjob)
    obtain ⟨hwent, hgrown, hthere⟩ := ih hrestFirm hapart.2 hstep
      (fun job hjob hm => hm.elim (hmade job (List.mem_cons_of_mem _ hjob))
        (hapart.1 job hjob).folder)
      (fun job hjob q hq => hq.elim (hwritten job (List.mem_cons_of_mem _ hjob) q) fun hq hpre =>
        (hapart.1 job hjob).page (hq.1 ▸ hpre))
    refine ⟨?_, hgrown.mono (fun q _ hq => ?_) fun q hq => ?_, fun job hjob hok => ?_⟩
    · rw [deliverAll, hsame, hwent, List.filterMap_cons]
      rcases (d.deliver target page).2 with _ | p <;> rfl
    · rcases hq with (hq | hq) | ⟨job, hjob, hq⟩
      · exact .inl hq
      · exact .inr ⟨_, List.mem_cons_self, hq⟩
      · exact .inr ⟨job, List.mem_cons_of_mem _ hjob, hq⟩
    · rcases hq with (hq | hq) | ⟨job, hjob, hq⟩
      · exact .inl hq
      · exact .inr ⟨_, List.mem_cons_self, hq⟩
      · exact .inr ⟨job, List.mem_cons_of_mem _ hjob, hq⟩
    · rcases List.mem_cons.mp hjob with rfl | hjob
      · -- the page is there once delivered, and no later page has its place
        have hok' := hsame.trans hok
        obtain ⟨text, -, hcontent⟩ := hone'.content hok'
        rw [deliverAll, ← hone.get?_eq hone' hok hok', hcontent]
        refine deliverAll_get? (hone'.grown.wellFormed hd') (fun job hjob => ?_) (fun job hjob heq => ?_)
          hcontent
        · exact ((hrestFirm job hjob).mono hg.folder).mono hone'.grown.folder
        · exact (hapart.1 job hjob).page (heq ▸ List.prefix_refl _)
      · exact hthere job hjob hok

end Disk

end StaticSite
