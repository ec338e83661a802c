import IntentSpec.Check.World

/-!
# Checking a file

A file check asks what stands at a path.  A path at which nothing stands fails; any other error leaves
the check unknown.  The least size is compared for regular files only.

The kind is compared before the size, so a directory in place of a file is reported as one, whatever its
size.  The size of what is no regular file is neither compared nor recorded, since the number that the
operating system gives for a directory says nothing about what is in it.

What the operating system answers is a parameter (`FileAnswer`): a kind and a size, an error number, or that
the text is no path at all.  Whether nothing stands at a path is read off the error number alone; a path that
leads through a file has another number, and the check is unknown.

## Main definitions

* `Check.statFailure` — the outcome for an error.
* `Check.statOutcome` — the outcome for what stands at a path.
* `Check.file` — the check.
-/

namespace IntentSpec.Check

/-- The outcome when the operating system reports an error. -/
def statFailure (code : Option Int) : CheckOutcome :=
  if code = some Errno.noEntry then .failed "path_not_found" (some [("exists", .bool false)])
  else if code = some Errno.accessDenied then .unknown "permission_denied"
  else .unknown ("filesystem_error:" ++ Errno.name code)

/-- The outcome for a file that is there. -/
def fileOutcome (wanted : Option String) (least : Option Int) (kind : FileKind) (size : Int) :
    CheckOutcome :=
  let actual : Option Int := if kind = .file then some size else none
  let evidence :=
    [("actual_type", Json.text kind.name), ("actual_size_bytes", (actual.map Json.int).getD .null),
     ("exists", .bool true)]
  match wanted.filter (· != kind.name) with
  | some wanted =>
    .failed ("type_mismatch:expected=" ++ wanted ++ ",actual=" ++ kind.name) (some evidence)
  | none =>
    match least, actual with
    | some least, some actual =>
      if actual < least then
        .failed ("size_below_minimum:expected=" ++ toString least ++ ",actual=" ++ toString actual)
          (some evidence)
      else .passed evidence
    | _, _ => .passed evidence

/-- The outcome for what stands at a path. -/
def statOutcome (wanted : Option String) (least : Option Int) : FileAnswer → CheckOutcome
  | .found kind size => fileOutcome wanted least kind size
  | .failed code => statFailure code
  | .noPath => .unknown ("filesystem_error:" ++ Errno.name none)

/-- The path that parameters name, and the kind of file and the least size that are wanted there. -/
def fileQuestion (params : Params) : Except Trouble (String × Option String × Option Int) := do
  let path ← need "path" params
  let wanted := (value? "type" params).filter (· != "")
  let least ← integer? "min_size_bytes" params
  return (path, wanted, least)

/-- Checks a file. -/
def file (params : Params) : Inquiry CheckOutcome := do
  let (path, wanted, least) ← fileQuestion params
  return statOutcome wanted least (← Inquiry.ask (.stat path))

end IntentSpec.Check
