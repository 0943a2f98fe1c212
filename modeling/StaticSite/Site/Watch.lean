import StaticSite.Glob.Basic
import StaticSite.Number.Reading
import StaticSite.Page.Debounce
import StaticSite.Site.Rebuild

/-!
# Watching for changes

A handler is told of every change on the disk. It passes over folders, over what is only opened,
closed or deleted, over files that no glob matches and over changes too soon after the last one; for
any other change it has the site built again. It survives every failure, which it reports.

## Main definitions

* `matchesAny`, `watchRoots`: the files that globs match and the directories to observe for them.
* `Handler`, `Handler.shouldRebuild`, `Handler.onEvent`: what is done about a change.
* `watch`: watching until there are no more changes.
-/

namespace StaticSite

open Running

/-! ### Globs -/

/-- The failure of matching a path with something that is no glob. -/
def notAGlob : Value → Failure
  | .bytes _ => .wrongType "cannot use a bytes pattern on a string-like object"
  | v => .wrongType ("expected str, bytes or os.PathLike object, not " ++ v.typeName)

/-- One of the globs matches a path; the globs after it are not looked at. -/
def matchesAny (path : String) : List Value → Except Failure Bool
  | [] => .ok false
  | .text glob :: rest =>
    if Glob.accepts glob.toList path.toList then .ok true else matchesAny path rest
  | v :: _ => .error (notAGlob v)

/-- The directory that has to be observed for a glob. -/
def globRoot (glob : String) : String :=
  Path.parent (String.ofList (Glob.literalPart glob.toList))

/-- The existing directories to observe for globs, each of them once. -/
def watchRoots (d : Disk) (globs : List String) : List String :=
  globs.foldl (fun roots glob =>
    let root := globRoot glob
    if !root.isEmpty && d.isFolder root && !roots.contains root then roots ++ [root] else roots) []

/-- The texts among values, which all have to be texts. -/
def textsOf : List Value → Except Failure (List String)
  | [] => .ok []
  | .text s :: rest => (textsOf rest).map (s :: ·)
  | v :: _ => .error (.wrongType ("expected string or bytes-like object, got '" ++ v.typeName ++ "'"))

/-! ### The handler -/

/-- What is done about a change. -/
structure Handler where
  /-- The names of the views at the start. -/
  views : List String
  /-- The time in seconds for which a change of the same file does not count. -/
  delay : Binary64
  /-- The times of the changes that counted last. -/
  accepted : Accepted Binary64

namespace Handler

/-- A change of a path counts. -/
def shouldRebuild (h : Handler) (path : String) (time : Binary64) : Running (Bool × Handler) := do
  let opts ← currentOptions
  let globs ← Running.ofExcept (iterate opts.globs)
  if !(← Running.ofExcept (matchesAny path globs)) then pure (false, h)
  else
    match h.accepted.admit? h.delay path time with
    | none => pure (false, h)
    | some accepted => pure (true, { h with accepted })

/-- The changes of this kind are of interest. -/
def isRelevant : EventKind → Bool
  | .modified | .created | .moved => true
  | .deleted | .closed | .opened => false

/-- The file that a change is about: where it has gone, or where it is. -/
def subject (e : Event) : String := if e.target.isEmpty then e.path else e.target

/-- The report about a change that could not be followed. -/
def changeFailure (path : String) (e : Failure) : Message :=
  .failure ("Rebuild failed: " ++ e.message) path failureDetail

/-- Do what a change asks for. -/
def onEvent (h : Handler) (e : Event) : Running Handler := do
  if e.isFolder || !isRelevant e.kind then pure h
  else
    let path := subject e
    match (← attempt (h.shouldRebuild path e.time)) with
    | .error (.exit code) => throw (.exit code)
    | .error failure =>
      report (changeFailure path failure)
      pure h
    | .ok (false, h) => pure h
    | .ok (true, h) =>
      match (← attempt (rebuild path h.views)) with
      | .ok _ => pure h
      | .error (.exit code) => throw (.exit code)
      | .error failure =>
        report (changeFailure path failure)
        pure h

end Handler

/-! ### Watching -/

/-- The failure of taking a value for a number. -/
def notANumber (v : Value) : Failure :=
  .wrongType ("float() argument must be a string or a real number, not '" ++ v.fullTypeName ++ "'")

/-- The number that an integer is taken for, if it is not too large. -/
def secondsOfInt (n : Int) : Except Failure Binary64 :=
  let x := Binary64.ofInt n
  if x.isFinite then .ok x else .error (.arithmetic "int too large to convert to float")

/-- A setting as a number of seconds. -/
def secondsOf (v : Value) : Except Failure Binary64 :=
  match v with
  | .float x => .ok x
  | .int n => secondsOfInt n
  | .bool b => secondsOfInt (if b then 1 else 0)
  | .text s =>
    match Number.readFloat? s.toList with
    | some x => .ok x
    | none => .error (.badValue ("could not convert string to float: " ++ Text.quote s))
  | other => .error (notANumber other)

/-- Ask something of the observer. -/
def observe (c : ObserverCall) : Running Unit :=
  modify fun w => { w with observed := w.observed ++ [c] }

/-- Let something happen on the disk. -/
def happen (e : Event) : Running Unit :=
  modify fun w => { w with disk := e.writes.foldl (fun d (p, entry) => d.put p entry) w.disk }

/-- Hand every change to a handler, one after the other. -/
def deliver (h : Handler) : List Event → Running Handler
  | [] => pure h
  | e :: rest => do
    happen e
    deliver (← h.onEvent e) rest

/-- Watch for changes until there are no more. Where no directory is observed nobody hears of any. -/
def watch (views : List String) : Running Unit := do
  let opts ← currentOptions
  let watched ← Running.ofExcept (subscript opts.settings "watch")
  let delay ← Running.ofExcept (secondsOf (← Running.ofExcept (subscript watched "debounce")))
  let globs ← Running.ofExcept (textsOf (← Running.ofExcept (iterate opts.globs)))
  let roots := watchRoots (← get).disk globs
  roots.forM fun root => observe (.schedule root)
  observe .start
  report (.watching ("Views watching " ++ Style.extension (", ".intercalate globs)))
  let events := (← get).events
  modify fun w => { w with events := [] }
  let outcome ← attempt (deliver ⟨views, delay, []⟩ (if roots.isEmpty then [] else events))
  match outcome with
  | .ok _ => report (.success "\nStopping file watcher...")
  | .error _ => pure ()
  observe .stop
  observe .join
  report (.success "Done!")
  match outcome with
  | .ok _ => pure ()
  | .error e => throw e

end StaticSite
