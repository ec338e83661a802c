import IntentSpec.Proofs.Text.Pieces
import IntentSpec.Proofs.Files.Write
import IntentSpec.Proofs.Text.Class
import IntentSpec.Store.Receipts

/-!
# A store of receipts as a map

Whatever a store is asked for, one request after the other, it behaves as a map from hashes to texts in
which receipts are set: what is found is what was written last.  For this the names of receipts
have to tell hashes and kinds of receipts apart, also where all of them are kept in one directory, and from
the names of the files beside them; a write that fails has to leave the map as it is.

Validation receipts and verification receipts are treated alike up to the point where only the former can be
looked for, so what a place holds is followed for both kinds at once (`Stores`, by one step and then by
induction on the requests).  Looking for a receipt may itself fail, when the operating system does not take the
path at all; no write can have succeeded then, so the map has nothing there either.

* `ReceiptKind`, `ReceiptStore.place` — the kinds of receipts, and where they are.
* `ReceiptStore.Request`, `ReceiptStore.serve` — requests and their answers.
* `Stores.serve` — what requests do to one receipt.
* `serve_refines` — the store as a map.
-/

namespace IntentSpec

open FileTree Text

/-! ## Hashes -/

/-- A hash: 64 hexadecimal digits in lower case. -/
def IsHash (hash : String) : Prop := hash.length = 64 ∧ ∀ c ∈ hash.toList, c ∈ "0123456789abcdef".toList

theorem isHexDigit_iff (c : Char) : Sha256.isHexDigit c = true ↔ c ∈ "0123456789abcdef".toList := by
  constructor
  · intro digit
    have digits : ∀ k < 10, Char.ofNat (48 + k) ∈ "0123456789abcdef".toList := by decide
    have letters : ∀ k < 6, Char.ofNat (97 + k) ∈ "0123456789abcdef".toList := by decide
    rcases Bool.or_eq_true _ _ ▸ digit with digit | letter
    · have range := toNat_of_isAsciiDigit digit
      rw [← Char.ofNat_toNat c, ← Nat.add_sub_of_le range.1]
      exact digits _ (by omega)
    · have bounds : 'a' ≤ c ∧ c ≤ 'f' := by simpa using letter
      have range : 97 ≤ c.toNat ∧ c.toNat ≤ 102 := bounds
      rw [← Char.ofNat_toNat c, ← Nat.add_sub_of_le range.1]
      exact letters _ (by omega)
  · have digits : "0123456789abcdef".toList.all Sha256.isHexDigit = true := by decide
    exact List.all_eq_true.mp digits c

theorem isHex_iff (hash : String) : Sha256.isHex hash = true ↔ IsHash hash := by
  simp only [Sha256.isHex, Bool.and_eq_true, beq_iff_eq, List.all_eq_true, isHexDigit_iff, IsHash]

/-! ## The names of receipts -/

theorem Path.child_of_name {name : String} (noSlash : '/' ∉ name.toList) (some : name.toList ≠ [])
    (notDot : name.toList ≠ ['.']) (p : Path) : p.child name = ⟨p.root, p.parts ++ [name]⟩ := by
  have root : Path.rootOf name.toList = 0 := by
    obtain ⟨c, rest, split⟩ := List.exists_cons_of_ne_nil some
    have first : (c == '/') = false := by
      rw [beq_eq_false_iff_ne]
      rintro rfl
      exact noSlash (split ▸ List.mem_cons_self)
    simp [Path.rootOf, split, first]
  have parts : Path.partsOf name.toList = [name] := by
    simp [Path.partsOf, splitAt_of_notMem noSlash, some, notDot]
  rw [Path.child, Path.ofText, root, parts, Path.join, if_neg (by simp [Path.isAbsolute])]

/-- The place of a child with a name of its own is below that of its directory. -/
theorem placeOf_child_of_name {p : Path} {name : String} (child : p.child name = ⟨p.root, p.parts ++ [name]⟩)
    (notUp : name ≠ Path.up) (directory : Path) :
    placeOf directory (p.child name) = placeOf directory p ++ [name] := by
  have parts : (directory.join ⟨p.root, p.parts ++ [name]⟩).parts = (directory.join p).parts ++ [name] := by
    by_cases absolute : p.root = 0 <;> simp [Path.join, Path.isAbsolute, absolute]
  rw [child, placeOf, parts, placeFrom_append, placeFrom_name _ notUp]
  rfl

/-- The names of receipts: a hash, and an ending that says which kind of receipt it is. -/
structure ReceiptName (hash ending name : String) : Prop where
  isHash : IsHash hash
  /-- The name is the hash with the ending. -/
  same : name = hash ++ ending
  noSlash : '/' ∉ ending.toList

namespace ReceiptName

variable {hash ending name : String} (isName : ReceiptName hash ending name)
include isName

/-- The name begins with a digit. -/
theorem exists_first : ∃ c rest, name.toList = c :: rest ∧ c ∈ "0123456789abcdef".toList := by
  have long : 0 < hash.toList.length := by rw [String.length_toList, isName.isHash.1]; decide
  obtain ⟨c, rest, split⟩ := List.exists_cons_of_length_pos long
  refine ⟨c, rest ++ ending.toList, ?_, isName.isHash.2 c (split ▸ List.mem_cons_self)⟩
  rw [isName.same, String.toList_append, split, List.cons_append]

theorem ne_of_dot {other : String} (dot : other.toList.head? = some '.') : name ≠ other := by
  rintro rfl
  obtain ⟨c, rest, split, digit⟩ := isName.exists_first
  rw [split] at dot
  obtain rfl := Option.some.inj dot
  revert digit
  decide

theorem child (p : Path) : p.child name = ⟨p.root, p.parts ++ [name]⟩ := by
  obtain ⟨c, rest, split, -⟩ := isName.exists_first
  refine Path.child_of_name ?_ (by simp [split]) ?_ p
  · rw [isName.same, String.toList_append, List.mem_append, not_or]
    refine ⟨fun here => ?_, isName.noSlash⟩
    have slash := isName.isHash.2 '/' here
    revert slash
    decide
  · intro same
    have dot : ".".toList.head? = some '.' := rfl
    exact isName.ne_of_dot dot (String.toList_injective same)

/-- The place of a receipt is below that of its directory. -/
theorem placeOf_child (directory p : Path) :
    placeOf directory (p.child name) = placeOf directory p ++ [name] :=
  placeOf_child_of_name (isName.child p) (isName.ne_of_dot rfl) directory

end ReceiptName

/-- Receipts have different names unless they are of one kind and of one specification. -/
theorem ReceiptName.ne {hash hash' ending ending' name name' : String} (isName : ReceiptName hash ending name)
    (isName' : ReceiptName hash' ending' name') (other : hash ≠ hash' ∨ ending ≠ ending') : name ≠ name' := by
  rw [isName.same, isName'.same]
  intro same
  have lengths : hash.toList.length = hash'.toList.length := by
    rw [String.length_toList, String.length_toList, isName.isHash.1, isName'.isHash.1]
  have lists := congrArg String.toList same
  rw [String.toList_append, String.toList_append] at lists
  obtain ⟨hashes, endings⟩ := List.append_inj lists lengths
  exact other.elim (· (String.toList_injective hashes)) (· (String.toList_injective endings))

/-! ## Writing a file -/

theorem WriteFaults.ne_stop (faults : WriteFaults) (s : WriteStep) :
    faults.interruptions.interruption s ≠ some .stop := by
  unfold interruptions
  dsimp only
  cases faults.code s <;> simp

namespace ReceiptStore

section WriteFile

variable {action payload : String} {directory path : Path} {files : FileTree} {faults : WriteFaults}

theorem content_utf8 (payload : String) : (Payload.text payload "utf-8").content Encoding.codecs = .ok (Utf8.encode payload) := rfl

/-- The answer to a write is the path that was to be written. -/
theorem answer_of_writeFile {answer : Path}
    (writes : (writeFile action directory path payload files faults).2 = .ok answer) : answer = path := by
  unfold writeFile at writes
  dsimp only at writes
  split at writes
  · exact (Except.ok.inj writes).symm
  · cases writes
  · exact (Except.ok.inj writes).symm

/-- **A file that has been written holds what was written.** Nothing is assumed of the faults at the
steps: where the write says that it is done, it is. -/
theorem holds_of_writeFile {answer : Path}
    (writes : (writeFile action directory path payload files faults).2 = .ok answer) :
    answer = path ∧
      (writeFile action directory path payload files faults).1.Holds directory path
        (some (Utf8.encode payload)) := by
  have changes := FileWrite.run_changes
    { faults.interruptions with directory, target := path, payload := .text payload "utf-8", makeParents := true } files
  unfold writeFile at writes ⊢
  dsimp only at writes ⊢
  split at writes
  next isDone =>
    obtain ⟨content, isContent, found, plain⟩ := changes.done isDone
    obtain rfl := Except.ok.inj (isContent.symm.trans (content_utf8 payload))
    exact ⟨(Except.ok.inj writes).symm, found, plain⟩
  next => cases writes
  next isStopped =>
    obtain ⟨s, stops⟩ := changes.stopped isStopped
    exact absurd stops (faults.ne_stop s)

/-- **What could not be written leaves the file as it was**, at whichever step the error was
reported. -/
theorem holds_of_writeFile_error {fault : StoreFault}
    (fails : (writeFile action directory path payload files faults).2 = .error fault)
    {content : Option (List UInt8)} (holds : files.Holds directory path content) :
    (writeFile action directory path payload files faults).1.Holds directory path content := by
  have changes := FileWrite.run_changes
    { faults.interruptions with directory, target := path, payload := .text payload "utf-8", makeParents := true } files
  unfold writeFile at fails ⊢
  dsimp only at fails ⊢
  split at fails
  next => cases fails
  next trouble isFailed => exact holds.of_keeps changes.keeps (changes.failed trouble isFailed)
  next => cases fails

/-- **Another file is left as it is**, if its name is none for a file beside that which is written. -/
theorem holds_of_writeFile_of_ne {other : Path} {content : Option (List UInt8)}
    (holds : files.Holds directory other content) (apart : placeOf directory other ≠ placeOf directory path)
    (named : ∀ parent number, placeOf directory other ≠ parent ++ [FileWrite.besideName path.name number]) :
    (writeFile action directory path payload files faults).1.Holds directory other content := by
  have changes := FileWrite.run_changes
    { faults.interruptions with directory, target := path, payload := .text payload "utf-8", makeParents := true } files
  refine holds.of_keeps changes.keeps (changes.others _ apart ?_)
  rintro ⟨parent, number, same⟩
  exact named parent number same

end WriteFile

/-! ## Receipts -/

/-- The kinds of receipts. -/
inductive ReceiptKind where
  | validation
  | verification
deriving DecidableEq

namespace ReceiptKind

/-- What the names of the receipts of a kind end in. -/
def ending : ReceiptKind → String
  | validation => ".validation.json"
  | verification => ".verification.json"

/-- The directory where the receipts of a kind are kept. -/
def home (store : ReceiptStore) : ReceiptKind → Path
  | validation => store.receipts
  | verification => store.verification

theorem ending_injective : Function.Injective ending := by
  intro kind kind' same
  cases kind <;> cases kind' <;> first | rfl | exact absurd same (by decide)

/-- A hash with the ending of a kind is the name of a receipt. -/
theorem receiptName {hash : String} (isHash : IsHash hash) (kind : ReceiptKind) :
    ReceiptName hash kind.ending (hash ++ kind.ending) := by
  refine ⟨isHash, rfl, ?_⟩
  cases kind <;> decide

end ReceiptKind

section Receipts

theorem checkedHash_of_isHash {hash : String} (isHash : IsHash hash) : checkedHash hash = .ok hash :=
  if_pos ((isHex_iff hash).mpr isHash)

theorem checkedHash_of_not {hash : String} (other : ¬ IsHash hash) : checkedHash hash = .error .badHash :=
  if_neg (mt (isHex_iff hash).mp other)

variable (store : ReceiptStore) (directory : Path)

/-- Where the receipt of a kind is kept for a hash. -/
def place (kind : ReceiptKind) (hash : String) : Path := (kind.home store).child (hash ++ kind.ending)

theorem validationPath_eq {hash : String} (isHash : IsHash hash) :
    store.validationPath hash = .ok (store.place .validation hash) := by
  rw [validationPath, checkedHash_of_isHash isHash]
  rfl

theorem verificationPath_eq {hash : String} (isHash : IsHash hash) :
    store.verificationPath hash = .ok (store.place .verification hash) := by
  rw [verificationPath, checkedHash_of_isHash isHash]
  rfl

theorem validationPath_of_not {hash : String} (other : ¬ IsHash hash) :
    store.validationPath hash = .error .badHash := by
  rw [validationPath, checkedHash_of_not other]
  rfl

theorem verificationPath_of_not {hash : String} (other : ¬ IsHash hash) :
    store.verificationPath hash = .error .badHash := by
  rw [verificationPath, checkedHash_of_not other]
  rfl

/-- The receipt of a kind and a hash has a content, or there is none. -/
def Stores (files : FileTree) (kind : ReceiptKind) (hash : String) (content : Option (List UInt8)) : Prop :=
  files.Holds directory (store.place kind hash) content

variable {store directory} {files : FileTree} {kind : ReceiptKind} {hash : String}
  {content : Option (List UInt8)}

/-- A validation receipt is found exactly if it is stored. -/
theorem Stores.find_iff (stores : store.Stores directory files .validation hash content) (isHash : IsHash hash)
    (path : Path) : store.findValidation? directory files hash = .ok (some path) ↔
      path = store.place .validation hash ∧ content.isSome = true := by
  have found := Holds.isFile_iff stores
  rw [findValidation?, validationPath_eq store isHash]
  dsimp only [bind, Except.bind]
  rcases isFile : files.isFile directory (store.place .validation hash) with code | there
  · rw [isFile] at found
    exact iff_of_false (by rintro ⟨⟩) fun both => by cases found.mpr both.2
  · rw [isFile, Except.ok.injEq] at found
    rw [← found]
    cases there <;> simp [pure, Except.pure, eq_comm]

/-- Looking for a validation receipt fails only where nothing is stored, on a path that the system does not
take. -/
theorem Stores.find_fails (stores : store.Stores directory files .validation hash content) (isHash : IsHash hash)
    {fault : StoreFault} (fails : store.findValidation? directory files hash = .error fault) :
    content = none ∧ ∃ code, files.stat directory (store.place .validation hash) = .error code ∧
      code ∉ FileTree.absences ∧ fault = .lookup code := by
  have found := Holds.isFile_iff stores
  rw [findValidation?, validationPath_eq store isHash] at fails
  dsimp only [bind, Except.bind] at fails
  rcases isFile : files.isFile directory (store.place .validation hash) with code | there
  · rw [isFile] at found fails
    obtain ⟨-, stat, present⟩ := (isFile_eq_error_iff _ _ _ _).mp isFile
    refine ⟨?_, code, stat, present, (Except.error.inj fails).symm⟩
    cases content with
    | none => rfl
    | some content => cases found.mpr rfl
  · rw [isFile] at fails
    cases fails

/-- Writing a file that is kept at another place leaves a receipt as it is. -/
theorem Stores.of_apart (stores : store.Stores directory files kind hash content) (isHash : IsHash hash)
    {path : Path} (apart : placeOf directory (kind.home store) ++ [hash ++ kind.ending] ≠ placeOf directory path)
    {action payload : String} {faults : WriteFaults} :
    store.Stores directory (writeFile action directory path payload files faults).1 kind hash content := by
  have isName := kind.receiptName isHash
  refine holds_of_writeFile_of_ne stores ?_ fun parent number => ?_
  · rw [place, isName.placeOf_child]
    exact apart
  · rw [place, isName.placeOf_child]
    intro same
    refine isName.ne_of_dot ?_ (List.singleton_inj.mp (List.append_inj_right' same rfl))
    rw [FileWrite.toList_besideName]
    rfl

/-- **Writing another receipt leaves a receipt as it is.** Hashes and kinds that differ have places
that differ. -/
theorem Stores.of_other (stores : store.Stores directory files kind hash content) (isHash : IsHash hash)
    {kind' : ReceiptKind} {hash' : String} (isHash' : IsHash hash') (other : kind ≠ kind' ∨ hash ≠ hash')
    {action payload : String} {faults : WriteFaults} :
    store.Stores directory
      (writeFile action directory (store.place kind' hash') payload files faults).1 kind hash content := by
  refine stores.of_apart isHash ?_
  have isName := kind.receiptName isHash
  have isName' := kind'.receiptName isHash'
  rw [place, isName'.placeOf_child]
  intro same
  refine isName.ne isName' ?_ (List.singleton_inj.mp (List.append_inj_right' same rfl))
  exact other.symm.imp id fun apart => ReceiptKind.ending_injective.ne apart

end Receipts

/-! ## Requests -/

/-- What a store is asked for. -/
inductive Request where
  /-- A receipt is to be written. -/
  | write (kind : ReceiptKind) (hash text : String) (faults : WriteFaults)
  /-- A validation receipt is to be found. -/
  | findValidation (hash : String)

namespace Request

/-- The hash that a request is about. -/
def hash : Request → String
  | write _ hash _ _ | findValidation hash => hash

/-- A request writes the receipt of a kind and a hash. -/
def Writes (request : Request) (kind : ReceiptKind) (hash : String) : Prop :=
  ∃ text faults, request = .write kind hash text faults

end Request

section Serve

variable (store : ReceiptStore) (directory : Path)

/-- What a request does, and its answer. -/
def perform (files : FileTree) : Request → FileTree × Except StoreFault (Option Path)
  | .write .validation hash text faults =>
    (store.writeValidation directory hash text none files faults).map id (·.map some)
  | .write .verification hash text faults =>
    (store.writeVerification directory hash text none files faults).map id (·.map some)
  | .findValidation hash => (files, store.findValidation? directory files hash)

/-- A request with its answer. -/
abbrev Entry := Request × Except StoreFault (Option Path)

/-- What requests do one after the other, and their answers. -/
def serve (files : FileTree) : List Request → FileTree × List Entry
  | [] => (files, [])
  | request :: requests =>
    let done := store.perform directory files request
    let rest := serve done.1 requests
    (rest.1, (request, done.2) :: rest.2)

/-- The text that a request sets for a kind and a hash, if it is a write of such a receipt that has
succeeded. -/
def Entry.text? (kind : ReceiptKind) (hash : String) : Entry → Option String
  | (.write kind' hash' text _, .ok _) => if kind' = kind ∧ hash' = hash then some text else none
  | _ => none

/-- The text that has been set last for a kind and a hash. -/
def lastText (kind : ReceiptKind) (hash : String) (log : List Entry) : Option String :=
  (log.filterMap (Entry.text? kind hash)).getLast?

theorem lastText_cons (kind : ReceiptKind) (hash : String) (entry : Entry) (log : List Entry) :
    lastText kind hash (entry :: log) = (lastText kind hash log).or (entry.text? kind hash) := by
  unfold lastText
  rw [List.filterMap_cons]
  cases entry.text? kind hash with
  | none => rw [Option.or_none]
  | some text => rw [List.getLast?_cons]; cases List.getLast? _ <;> rfl

/-- The validation receipt that is found for a hash: where it is, and what it holds. -/
def stored (files : FileTree) (hash : String) : Option (Path × Except Int (List UInt8)) :=
  (store.findValidation? directory files hash).toOption.join.map fun path => (path, files.read directory path)

/-- What the receipt of a kind and a hash holds, if there is one. -/
def held (files : FileTree) (kind : ReceiptKind) (hash : String) : Option (List UInt8) :=
  (files.read directory (store.place kind hash)).toOption

end Serve

/-! ## The store as a map -/

section Map

variable {store : ReceiptStore} {directory : Path} {files : FileTree} {kind : ReceiptKind} {hash : String}

/-- The bytes of a receipt with a text. -/
def receiptBytes (text : String) : List UInt8 := Utf8.encode (receiptPayload text)

theorem perform_write (isHash : IsHash hash) (text : String) (faults : WriteFaults) :
    store.perform directory files (.write kind hash text faults) =
      (writeFile "write receipt" directory (store.place kind hash) (receiptPayload text) files
        faults).map id (·.map some) := by
  cases kind with
  | validation =>
      rw [perform, writeValidation, validationPath_eq store isHash]
      rfl
  | verification =>
      rw [perform, writeVerification, verificationPath_eq store isHash]
      rfl

/-- **What is no hash is refused**, and nothing is done. -/
theorem perform_of_not {request : Request} (other : ¬ IsHash request.hash) :
    store.perform directory files request = (files, .error .badHash) := by
  cases request with
  | write kind hash text faults =>
      cases kind with
      | validation =>
          have refused : store.validationPath hash = .error .badHash := validationPath_of_not store other
          rw [perform, writeValidation, refused]
          rfl
      | verification =>
          have refused : store.verificationPath hash = .error .badHash := verificationPath_of_not store other
          rw [perform, writeVerification, refused]
          rfl
  | findValidation hash =>
      have refused : store.validationPath hash = .error .badHash := validationPath_of_not store other
      rw [perform, findValidation?, refused]
      rfl

/-- A request that does not write a receipt leaves it as it is. -/
theorem Stores.perform_of_other {content : Option (List UInt8)}
    (stores : store.Stores directory files kind hash content) (isHash : IsHash hash) {request : Request}
    (other : ¬ request.Writes kind hash) :
    store.Stores directory (store.perform directory files request).1 kind hash content := by
  by_cases isHash' : IsHash request.hash
  · cases request with
    | write kind' hash' text faults =>
        have isHash' : IsHash hash' := isHash'
        rw [perform_write isHash', Prod.map_fst, id]
        refine stores.of_other isHash isHash' ?_
        by_contra! same
        obtain ⟨rfl, rfl⟩ := same
        exact other ⟨text, faults, rfl⟩
    | findValidation hash' => exact stores
  · rw [perform_of_not isHash']
    exact stores

/-- **What a request does to a receipt**: it is as the request sets it, or as it was. -/
theorem Stores.perform {content : Option (List UInt8)} (stores : store.Stores directory files kind hash content)
    (isHash : IsHash hash) (request : Request) :
    store.Stores directory (store.perform directory files request).1 kind hash
      (((Entry.text? kind hash (request, (store.perform directory files request).2)).map receiptBytes).or
        content) := by
  by_cases same : request.Writes kind hash
  · obtain ⟨text, faults, rfl⟩ := same
    rw [perform_write isHash]
    cases answers : (writeFile "write receipt" directory (store.place kind hash) (receiptPayload text) files
        faults).2 with
    | ok path =>
        have holds := (holds_of_writeFile answers).2
        simpa [Stores, receiptBytes, Prod.map, answers, Except.map, Entry.text?] using holds
    | error fault =>
        have holds := holds_of_writeFile_error answers stores
        simpa [Stores, Prod.map, answers, Except.map, Entry.text?] using holds
  · have unset : Entry.text? kind hash (request, (store.perform directory files request).2) = none := by
      cases request with
      | write kind' hash' text faults =>
          have apart : ¬ (kind' = kind ∧ hash' = hash) := by
            rintro ⟨rfl, rfl⟩
            exact same ⟨text, faults, rfl⟩
          unfold Entry.text?
          split <;> simp_all
      | findValidation => rfl
    rw [unset]
    exact stores.perform_of_other isHash same

/-- **What requests do to a receipt**: it is as it has been set last, or as it was. -/
theorem Stores.serve {content : Option (List UInt8)} (stores : store.Stores directory files kind hash content)
    (isHash : IsHash hash) (requests : List Request) :
    store.Stores directory (store.serve directory files requests).1 kind hash
      (((lastText kind hash (store.serve directory files requests).2).map receiptBytes).or content) := by
  induction requests generalizing files content with
  | nil => exact stores
  | cons request requests ih =>
      have later := ih (stores.perform isHash request)
      rw [← Option.or_assoc, ← Option.map_or, ← lastText_cons] at later
      exact later

theorem stored_of_not (other : ¬ IsHash hash) : store.stored directory files hash = none := by
  rw [stored, findValidation?, validationPath_of_not store other]
  rfl

theorem Stores.stored {content : Option (List UInt8)}
    (stores : store.Stores directory files .validation hash content) (isHash : IsHash hash) :
    store.stored directory files hash =
      content.map fun bytes => (store.place .validation hash, .ok bytes) := by
  have found := stores.find_iff isHash
  unfold ReceiptStore.stored
  cases content with
  | some bytes =>
      rw [(found _).mpr ⟨rfl, rfl⟩]
      show some (_, files.read directory _) = _
      rw [Holds.read stores]
      rfl
  | none =>
      rcases answer : store.findValidation? directory files hash with fault | _ | path
      · rfl
      · rfl
      · cases ((found path).mp answer).2

/-- No file stands where receipts are kept, as in empty directories. -/
def Fresh (store : ReceiptStore) (directory : Path) (files : FileTree) : Prop :=
  ∀ kind hash, IsHash hash → store.Stores directory files kind hash none

/-- A store holds a map from hashes to texts for each kind of receipts, and requests do to the map what they
should. -/
structure Refines (store : ReceiptStore) (directory : Path) (files : FileTree)
    (texts : ReceiptKind → String → Option String) : Prop where
  /-- A validation receipt is found exactly if it is in the map, and that where it is kept. -/
  found : ∀ hash, IsHash hash → ∃ path, store.validationPath hash = .ok path ∧
    (∀ path', store.findValidation? directory files hash = .ok (some path') ↔
      path' = path ∧ ∃ text, texts .validation hash = some text) ∧
    (∀ text, texts .validation hash = some text →
      files.read directory path = .ok (Utf8.encode (receiptPayload text)))
  /-- If looking for it fails, nothing is in the map for it, and the operating system does not take the path. -/
  lookup : ∀ hash, IsHash hash → ∀ fault, store.findValidation? directory files hash = .error fault →
    texts .validation hash = none ∧ ∃ code, files.stat directory (store.place .validation hash) = .error code ∧
      code ∉ FileTree.absences ∧ fault = .lookup code
  /-- Receipts of both kinds hold the texts of the map, and are there exactly for its hashes. -/
  holds : ∀ kind hash, IsHash hash →
    store.held directory files kind hash = (texts kind hash).map fun text => Utf8.encode (receiptPayload text)
  /-- A request that fails leaves all that is stored as it was. -/
  kept : ∀ request fault, (store.perform directory files request).2 = .error fault →
    (∀ hash, store.stored directory (store.perform directory files request).1 hash =
      store.stored directory files hash) ∧
    ∀ kind hash, IsHash hash → store.held directory (store.perform directory files request).1 kind hash =
      store.held directory files kind hash
  /-- A request leaves what is stored for a hash as it was, unless the receipt of that kind and hash is
  written. -/
  apart : ∀ request,
    (∀ hash, ¬ request.Writes .validation hash →
      store.stored directory (store.perform directory files request).1 hash =
        store.stored directory files hash) ∧
    ∀ kind hash, IsHash hash → ¬ request.Writes kind hash →
      store.held directory (store.perform directory files request).1 kind hash =
        store.held directory files kind hash
  /-- What is no hash is refused, and nothing is done. -/
  refused : ∀ request : Request, ¬ IsHash request.hash →
    store.perform directory files request = (files, .error .badHash)

/-- **A store is a map from hashes to texts**: after any requests, with whatever errors at the steps of
writes, a validation receipt is found exactly if one has been written, and it holds the text that has been
written last. -/
theorem serve_refines (store : ReceiptStore) (directory : Path) {start : FileTree}
    (fresh : store.Fresh directory start) (requests : List Request) :
    store.Refines directory (store.serve directory start requests).1
      fun kind hash => lastText kind hash (store.serve directory start requests).2 := by
  have stores (kind : ReceiptKind) (hash : String) (isHash : IsHash hash) :
      store.Stores directory (store.serve directory start requests).1 kind hash
        ((lastText kind hash (store.serve directory start requests).2).map receiptBytes) := by
    simpa using (fresh kind hash isHash).serve isHash requests
  generalize store.serve directory start requests = served at stores
  -- A request that sets no text for a receipt leaves it as it was.
  have same (kind : ReceiptKind) {request : Request} {hash : String} (isHash : IsHash hash)
      (unset : Entry.text? kind hash (request, (store.perform directory served.1 request).2) = none) :
      store.Stores directory (store.perform directory served.1 request).1 kind hash
        ((lastText kind hash served.2).map receiptBytes) := by
    have after := (stores kind hash isHash).perform isHash request
    rwa [unset] at after
  have sameStored {request : Request} {hash : String} (unset : IsHash hash →
      store.Stores directory (store.perform directory served.1 request).1 .validation hash
        ((lastText .validation hash served.2).map receiptBytes)) :
      store.stored directory (store.perform directory served.1 request).1 hash =
        store.stored directory served.1 hash := by
    by_cases isHash : IsHash hash
    · rw [(unset isHash).stored isHash, (stores .validation hash isHash).stored isHash]
    · rw [stored_of_not isHash, stored_of_not isHash]
  refine ⟨fun hash isHash => ?_, fun hash isHash fault fails => ?_, fun kind hash isHash => ?_,
    fun request fault fails => ?_, fun request => ⟨fun hash other => ?_, fun kind hash isHash other => ?_⟩,
    fun request => perform_of_not⟩
  · have holds := stores .validation hash isHash
    refine ⟨_, validationPath_eq store isHash, fun path' => ?_, fun text isLast => ?_⟩
    · rw [holds.find_iff isHash, Option.isSome_map, Option.isSome_iff_exists]
    · rw [isLast] at holds
      exact Holds.read holds
  · obtain ⟨nothing, failed⟩ := (stores .validation hash isHash).find_fails isHash fails
    exact ⟨Option.map_eq_none_iff.mp nothing, failed⟩
  · exact Holds.toOption_read (stores kind hash isHash)
  · have unset (kind : ReceiptKind) (hash : String) :
        Entry.text? kind hash (request, (store.perform directory served.1 request).2) = none := by
      rw [fails]
      cases request <;> rfl
    refine ⟨fun hash => sameStored fun isHash => same .validation isHash (unset _ hash), fun kind hash isHash => ?_⟩
    exact (Holds.toOption_read (same kind isHash (unset kind hash))).trans
      (Holds.toOption_read (stores kind hash isHash)).symm
  · exact sameStored fun isHash => (stores .validation hash isHash).perform_of_other isHash other
  · exact (Holds.toOption_read ((stores kind hash isHash).perform_of_other isHash other)).trans
      (Holds.toOption_read (stores kind hash isHash)).symm

/-- A store that keeps receipts of both kinds in one directory. -/
def sharedStore : ReceiptStore := ⟨⟨1, ["r"]⟩, ⟨1, ["r"]⟩, ⟨1, ["u"]⟩⟩

/-- The directory is there, and it is empty. -/
def sharedStart : FileTree := ⟨[(["r"], .directory)]⟩

/-- A hash. -/
def sharedHash : String := "0123456789abcdef0123456789abcdef0123456789abcdef0123456789abcdef"

/-- Receipts are written in turn; writing breaks off after a byte of the third one, and the last one cannot be
moved to its place. -/
def sharedRequests : List Request :=
  [.write .validation sharedHash "one" {},
   .write .verification sharedHash "checks" {},
   .write .verification sharedHash "none"
    { code := fun s => if s = .write then some Errno.busy else none, written := 1 },
   .write .validation sharedHash "two" { code := fun s => if s = .replace then some Errno.accessDenied else none }]

theorem serve_refines_sharedRequests :
    sharedStore.Fresh ⟨1, []⟩ sharedStart ∧
      lastText .validation sharedHash (sharedStore.serve ⟨1, []⟩ sharedStart sharedRequests).2 = some "one" ∧
      lastText .verification sharedHash (sharedStore.serve ⟨1, []⟩ sharedStart sharedRequests).2 = some "checks" ∧
      sharedStore.Refines ⟨1, []⟩ (sharedStore.serve ⟨1, []⟩ sharedStart sharedRequests).1
        fun kind hash => lastText kind hash (sharedStore.serve ⟨1, []⟩ sharedStart sharedRequests).2 := by
  have fresh : sharedStore.Fresh ⟨1, []⟩ sharedStart := by
    intro kind hash _ node isFile stands
    unfold sharedStart find? at stands
    split at stands
    · cases stands
      cases isFile
    · rw [List.find?_singleton] at stands
      split at stands <;> cases stands
      cases isFile
  exact ⟨fresh, by decide +kernel, by decide +kernel, serve_refines sharedStore _ fresh sharedRequests⟩

end Map

end ReceiptStore

end IntentSpec
