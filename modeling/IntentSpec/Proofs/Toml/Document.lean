import IntentSpec.Proofs.Toml.Table
import IntentSpec.Toml.Document

/-!
# What a document gives

A document gives a mapping in which no value is null and no key of any mapping stands twice.  Values
nest, so this is proved for values, items of arrays and entries of inline tables at once, by induction on
how deep they may nest; the lines of a document keep the tables sound one after the other.

* `written_value` — every value is written.
* `keeps_statement` — every statement keeps the tables sound.
* `written_of_read` — the value of a document is written.
-/

namespace IntentSpec.Toml

open Datum

theorem expect_eq_ok_iff {α : Type} (o : Option α) (a : α) : expect o = .ok a ↔ o = some a := by
  cases o <;> simp [expect]

theorem written_decimal {s rest : List Char} {d : Datum} (read : decimal? s = .ok (some (d, rest))) :
    Written d := by
  unfold decimal? at read
  dsimp only at read
  split at read
  · cases read
  · split at read
    · cases read
      exact .leaf trivial nofun
    · split at read
      · cases read
      · cases read
        exact .leaf trivial nofun

theorem written_special {s rest : List Char} {d : Datum} (read : special? s = some (d, rest)) :
    Written d := by
  unfold special? at read
  dsimp only at read
  split at read
  · cases read
    exact .leaf trivial nofun
  · cases read
    exact .leaf trivial nofun
  · cases read

theorem written_number {s rest : List Char} {d : Datum} (read : number? s = .ok (some (d, rest))) :
    Written d := by
  unfold number? at read
  split at read
  · cases read
    exact .leaf trivial nofun
  · obtain ⟨found, isDecimal, read⟩ := (bind_eq_ok_iff _ _ _).mp read
    cases found with
    | some found =>
        cases read
        exact written_decimal isDecimal
    | none => exact written_special (Except.ok.inj read)

theorem written_scalar {s rest : List Char} {d : Datum} (read : scalar s = .ok (d, rest)) :
    Written d := by
  unfold scalar at read
  extract_lets readText at read
  have text {found : Option (List Char × List Char)} {d : Datum} {rest : List Char}
      (read : readText found = .ok (d, rest)) : Written d := by
    obtain ⟨⟨t, rest'⟩, -, read⟩ := (bind_eq_ok_iff _ _ _).mp read
    cases read
    exact .leaf trivial nofun
  split at read
  · exact text read
  · exact text read
  · exact text read
  · exact text read
  · cases read
    exact .leaf trivial nofun
  · cases read
    exact .leaf trivial nofun
  · obtain ⟨found, -, read⟩ := (bind_eq_ok_iff _ _ _).mp read
    split at read
    · cases read
      exact .leaf trivial nofun
    · obtain ⟨found, isNumber, read⟩ := (bind_eq_ok_iff _ _ _).mp read
      rw [expect_eq_ok_iff] at read
      exact written_number (read ▸ isNumber)

/-- Values, items of arrays, entries of inline tables and pairs are written. -/
structure WrittenTo (depth : Nat) : Prop where
  value : ∀ {s d rest}, Toml.value depth s = .ok (d, rest) → Written d
  arrayItems : ∀ {done s d rest}, Toml.arrayItems depth done s = .ok (d, rest) → Written d
  /-- An inline table is written, if what has been read of it is sound. -/
  tableItems : ∀ {done s d rest}, Sound done → Toml.tableItems depth done s = .ok (d, rest) → Written d
  /-- The value of a pair is written. -/
  pair : ∀ {s keys d rest}, Toml.pair depth s = .ok ((keys, d), rest) → Written d

theorem writtenTo (depth : Nat) : WrittenTo depth := by
  induction depth with
  | zero => exact ⟨nofun, nofun, nofun, nofun⟩
  | succ depth ih =>
      refine ⟨?value, ?arrayItems, ?tableItems, ?pair⟩
      case value =>
        intro s d rest read
        unfold Toml.value at read
        split at read
        · obtain ⟨inside, -, read⟩ := (bind_eq_ok_iff _ _ _).mp read
          split at read
          · cases read
            exact .leaf trivial nofun
          · exact ih.arrayItems read
        · split at read
          · cases read
            exact Sound.nil.datumOf
          · exact ih.tableItems .nil read
        · exact written_scalar read
      case arrayItems =>
        intro done s d rest read
        unfold Toml.arrayItems at read
        obtain ⟨⟨item, s'⟩, -, read⟩ := (bind_eq_ok_iff _ _ _).mp read
        obtain ⟨after, -, read⟩ := (bind_eq_ok_iff _ _ _).mp read
        split at read
        · cases read
          exact .leaf trivial nofun
        · obtain ⟨next, -, read⟩ := (bind_eq_ok_iff _ _ _).mp read
          split at read
          · cases read
            exact .leaf trivial nofun
          · exact ih.arrayItems read
        · cases read
      case tableItems =>
        intro done s d rest sound read
        unfold Toml.tableItems at read
        obtain ⟨⟨⟨keys, item⟩, s'⟩, isPair, read⟩ := (bind_eq_ok_iff _ _ _).mp read
        obtain ⟨done', isSet, read⟩ := (bind_eq_ok_iff _ _ _).mp read
        rw [expect_eq_ok_iff] at isSet
        have kept := keeps_set inlineSection (ih.pair isPair) keys _ _ isSet sound
        split at read
        · cases read
          exact kept.datumOf
        · exact ih.tableItems kept read
        · cases read
      case pair =>
        intro s keys d rest read
        unfold Toml.pair at read
        obtain ⟨⟨keys', s'⟩, -, read⟩ := (bind_eq_ok_iff _ _ _).mp read
        obtain ⟨s'', -, read⟩ := (bind_eq_ok_iff _ _ _).mp read
        obtain ⟨⟨d', rest'⟩, isValue, read⟩ := (bind_eq_ok_iff _ _ _).mp read
        cases read
        exact ih.value isValue

/-- **Every statement keeps the tables sound**, whether it is a key with a value or a header of
either kind. -/
theorem keeps_statement {depth : Nat} {p p' : Progress} {s rest : List Char}
    (read : statement depth p s = .ok (p', rest)) (sound : Sound p.entries) : Sound p'.entries := by
  unfold statement at read
  split at read
  · obtain ⟨⟨keys, s'⟩, -, read⟩ := (bind_eq_ok_iff _ _ _).mp read
    obtain ⟨entries, appended, read⟩ := (bind_eq_ok_iff _ _ _).mp read
    obtain ⟨s'', -, read⟩ := (bind_eq_ok_iff _ _ _).mp read
    cases read
    exact keeps_append keys _ _ ((expect_eq_ok_iff _ _).mp appended) sound
  · obtain ⟨⟨keys, s'⟩, -, read⟩ := (bind_eq_ok_iff _ _ _).mp read
    obtain ⟨entries, declared, read⟩ := (bind_eq_ok_iff _ _ _).mp read
    obtain ⟨s'', -, read⟩ := (bind_eq_ok_iff _ _ _).mp read
    cases read
    exact keeps_declare _ keys _ _ ((expect_eq_ok_iff _ _).mp declared) sound
  · obtain ⟨⟨⟨keys, d⟩, s'⟩, isPair, read⟩ := (bind_eq_ok_iff _ _ _).mp read
    obtain ⟨entries, isSet, read⟩ := (bind_eq_ok_iff _ _ _).mp read
    cases read
    have keeps := (keeps_set p.section_ ((writtenTo depth).pair isPair) keys).within p.header
    exact keeps _ _ ((expect_eq_ok_iff _ _).mp isSet) sound

theorem keeps_lines {depth count : Nat} {p p' : Progress} {s : List Char}
    (read : lines depth count p s = .ok p') (sound : Sound p.entries) : Sound p'.entries := by
  induction count generalizing p s with
  | zero => cases read
  | succ count ih =>
      unfold lines at read
      extract_lets s' goesOn at read
      -- Whatever stands on the line, the tables are sound after it, and the further lines keep them so.
      have further {r : Progress × List Char} (kept : Sound r.1.entries)
          (read : goesOn r = .ok p') : Sound p'.entries := by
        obtain ⟨rest, -, read⟩ := (bind_eq_ok_iff _ _ _).mp read
        split at read
        · cases read
          exact kept
        · exact ih read kept
        · cases read
      clear_value s'
      simp only [pure_bind] at read
      split at read
      · exact further (r := (p, _)) sound read
      · exact further (r := (p, _)) sound read
      · exact further (r := (p, _)) sound read
      · obtain ⟨⟨q, s''⟩, isRead, read⟩ := (bind_eq_ok_iff _ _ _).mp read
        exact further (r := (q, _)) (keeps_statement isRead sound) read

/-- **The value of a document is written**: no value in it is null, and no key of a mapping stands twice. -/
theorem written_of_read {text : List Char} {d : Datum} (read : Toml.read text = .ok d) : Written d := by
  obtain ⟨p, isRead, done⟩ := (bind_eq_ok_iff _ _ _).mp read
  cases done
  exact (keeps_lines isRead .nil).datumOf

end IntentSpec.Toml
