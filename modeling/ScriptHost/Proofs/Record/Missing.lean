import ScriptHost.Proofs.Text.Quoted
import ScriptHost.Record.Basic

/-!
# Keys that are not found

An operation that finds no pair for a key answers with that key, as an inspection shows it. For
texts and for byte sequences the answer tells which key it was: it can be read back.

- `Record.Lacks`: all operations that look a key up end with the same error.
- `lacks_iff`: they do for the keys that are absent, with one error for each.
- `inspect_injective`, `ByteText.inspect_injective`: no two keys are shown alike.
- `missing_key_is_identified`: what the errors for absent keys tell.
-/

namespace ScriptHost

open Text (ByteText Inspect Visible inspect unquote)

universe u v

/-! ## What is shown of a key -/

namespace Text

@[simp] theorem inspect_string (s : String) : inspect s = quote s := by
  rw [inspect, Inspect.outline, instInspectString, Outline.compact]

@[simp] theorem inspect_byteText (t : ByteText) : inspect t = t.quote := by
  rw [inspect, Inspect.outline, ByteText.instInspect, Outline.compact]

/-- Texts that are shown alike are the same. -/
theorem inspect_injective {s t : String} (h : inspect s = inspect t) : s = t := by
  have hbytes : encode s = encode t := by
    have hunquote := congrArg unquote h
    rw [inspect_string, inspect_string, unquote_quote, unquote_quote] at hunquote
    exact Option.some.inj hunquote
  rw [← decodeLossy_encode s, hbytes, decodeLossy_encode]

/-- So are byte sequences, well-formed or not. -/
theorem ByteText.inspect_injective {s t : ByteText} (h : inspect s = inspect t) : s = t := by
  have hunquote := congrArg unquote h
  rw [inspect_byteText, inspect_byteText, s.unquote_quote, t.unquote_quote] at hunquote
  cases s
  cases t
  exact congrArg ByteText.mk (Option.some.inj hunquote)

end Text

/-! ## Absent keys -/

namespace Record

variable {κ : Type u} {α : Type v} [BEq κ] [Inspect κ]

/-- Every operation that looks the key up ends with the error `e`. -/
structure Lacks (r : Record κ α) (k : κ) (e : MissingKey) : Prop where
  get : r.get k = .error e
  modify : ∀ f, r.modify k f = .error e
  set : ∀ a, r.set k a = .error e

/-- The operations agree on which keys are absent, and on what they say of them. -/
theorem lacks_iff {r : Record κ α} {k : κ} {e : MissingKey} :
    r.Lacks k e ↔ r.contains k = false ∧ e = .of k := by
  constructor
  · rintro ⟨-, hmodify, -⟩
    have hid := hmodify id
    rw [modify] at hid
    split at hid
    · cases hid
    · next hnone =>
      cases hid
      exact ⟨by rw [contains, hnone]; rfl, rfl⟩
  · rintro ⟨habsent, rfl⟩
    have hnone : r.position? k = none :=
      Option.isNone_iff_eq_none.mp (Option.isSome_eq_false_iff.mp habsent)
    have hmodify (f : α → α) : r.modify k f = .error (.of k) := by
      rw [modify]
      split
      · next hsome => cases hnone.symm.trans hsome
      · rfl
    refine ⟨?_, hmodify, fun a => hmodify fun _ => a⟩
    rw [get, get?, hnone]
    rfl

end Record

/-- **A missing key is identified.**
1. Where a key is absent from a record, all operations that look it up give the same error.
2. From what the error says the bytes of the key are read back, and nothing in it is hidden.
3. So the errors for distinct keys say different things, whether they come from the same record
   and the same operation or not,
4. since no two keys are shown alike.
All of it holds of texts, and of byte sequences whether they are well-formed or not. -/
theorem missing_key_is_identified {α : Type v} :
    (∀ (r : Record String α) (k : String), r.contains k = false →
      ∃ e, r.Lacks k e ∧ unquote e.key = some (Text.encode k) ∧ Visible e.key.toList) ∧
    (∀ (r : Record ByteText α) (k : ByteText), r.contains k = false →
      ∃ e, r.Lacks k e ∧ unquote e.key = some k.bytes ∧ Visible e.key.toList) ∧
    (∀ (r r' : Record String α) (k k' : String) (e e' : MissingKey),
      r.Lacks k e → r'.Lacks k' e' → k ≠ k' → e.key ≠ e'.key) ∧
    (∀ (r r' : Record ByteText α) (k k' : ByteText) (e e' : MissingKey),
      r.Lacks k e → r'.Lacks k' e' → k ≠ k' → e.key ≠ e'.key) ∧
    (∀ s t : String, inspect s = inspect t → s = t) ∧
    (∀ s t : ByteText, inspect s = inspect t → s = t) := by
  refine ⟨fun r k habsent => ?_, fun r k habsent => ?_, ?texts, ?bytes,
    fun _ _ => Text.inspect_injective, fun _ _ => ByteText.inspect_injective⟩
  · refine ⟨_, Record.lacks_iff.mpr ⟨habsent, rfl⟩, ?_⟩
    rw [MissingKey.of, Text.inspect_string]
    exact ⟨Text.unquote_quote k, Text.visible_quote k⟩
  · refine ⟨_, Record.lacks_iff.mpr ⟨habsent, rfl⟩, ?_⟩
    rw [MissingKey.of, Text.inspect_byteText]
    exact ⟨k.unquote_quote, k.visible_quote⟩
  case texts =>
    intro r r' k k' e e' h h' hne hsame
    obtain ⟨-, rfl⟩ := Record.lacks_iff.mp h
    obtain ⟨-, rfl⟩ := Record.lacks_iff.mp h'
    exact hne (Text.inspect_injective hsame)
  case bytes =>
    intro r r' k k' e e' h h' hne hsame
    obtain ⟨-, rfl⟩ := Record.lacks_iff.mp h
    obtain ⟨-, rfl⟩ := Record.lacks_iff.mp h'
    exact hne (ByteText.inspect_injective hsame)

/-- A line end and the two characters that it is shown as; a byte that belongs to no character and
the four that it is shown as. -/
theorem missing_key_is_identified_escapes :
    let r : Record String Int64 := ⟨["n"], [1], rfl⟩
    let s : Record ByteText Int64 := .empty
    let k : ByteText := ⟨[0xFF]⟩
    let k' : ByteText := ⟨[0x5C, 0x78, 0x66, 0x66]⟩
    (r.contains "\n" = false ∧ r.contains "\\n" = false ∧
      ∃ e e', r.Lacks "\n" e ∧ r.Lacks "\\n" e' ∧ e.key ≠ e'.key) ∧
    (s.contains k = false ∧ s.contains k' = false ∧
      ∃ e e', s.Lacks k e ∧ s.Lacks k' e' ∧ e.key ≠ e'.key) := by
  intro r s k k'
  obtain ⟨htext, hbytes, htexts, hbytess, -⟩ := missing_key_is_identified (α := Int64)
  have hr : r.contains "\n" = false := by decide
  have hr' : r.contains "\\n" = false := by decide
  have hs : s.contains k = false := rfl
  have hs' : s.contains k' = false := rfl
  obtain ⟨e, he, -⟩ := htext r "\n" hr
  obtain ⟨e', he', -⟩ := htext r "\\n" hr'
  obtain ⟨f, hf, -⟩ := hbytes s k hs
  obtain ⟨f', hf', -⟩ := hbytes s k' hs'
  exact ⟨⟨hr, hr', e, e', he, he', htexts r r _ _ e e' he he' (by decide)⟩,
    hs, hs', f, f', hf, hf', hbytess s s _ _ f f' hf hf' (by decide)⟩

end ScriptHost
