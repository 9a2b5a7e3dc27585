import ScriptHost.Proofs.Stream.Reading

/-!
# Where decoding fails

Strict decoding stops at the first fault and says where it is; lossy decoding replaces it and goes
on. Both mean the same stretch of bytes: before it stands a text that no further byte belongs to,
it is as long as it agrees with the beginning of some character, and it is said to be incomplete
just if more bytes could have made it a character.

- `Segment.fault?`: the fault that a segment is, if it is one.
- `exists_of_segments_eq_append`: bytes can be cut between any two of their segments.
- `exists_of_decodeStrict_eq_error`: the first fault, with the text before it and what follows it.
- `Faulty.not_longer`, `Faulty.completable_iff`, `Faulty.length_le_three`: what a fault allows for.
- `strict_error_locates_fault`: the error of strict reading in terms of lossy reading.
-/

namespace ScriptHost

theorem exceptMap_eq_error_iff {ε α β : Type} {f : α → β} {x : Except ε α} {e : ε} :
    x.map f = .error e ↔ x = .error e := by
  cases x <;> simp [Except.map]

namespace Text

/-! ## Texts within bytes -/

/-- The characters of a text are the first segments of bytes that begin with it. -/
theorem segments_encode_append (t : String) (rest : List UInt8) :
    segments (encode t ++ rest) = t.toList.map .scalar ++ segments rest := by
  rw [encode]
  induction t.toList with
  | nil => rfl
  | cons c cs ih =>
    rw [List.flatMap_cons, List.append_assoc, segments_utf8EncodeChar_append, ih]
    rfl

/-- What follows a text within a text is a text. -/
theorem exists_encode_append_iff {t : String} {bytes : List UInt8} :
    (∃ u, encode u = encode t ++ bytes) ↔ ∃ v, encode v = bytes := by
  constructor
  · rintro ⟨u, hu⟩
    have hsegments : t.toList.map .scalar ++ segments bytes = u.toList.map .scalar := by
      rw [← segments_encode_append, ← hu, segments_encode]
    obtain ⟨cs, ds, -, -, hds⟩ := List.map_eq_append_iff.mp hsegments.symm
    refine ⟨String.ofList ds, ?_⟩
    rw [← flatMap_segments bytes, ← hds, List.flatMap_map, encode, String.toList_ofList]
    rfl
  · rintro ⟨v, rfl⟩
    refine ⟨t ++ v, ?_⟩
    rw [encode, encode, encode, String.toList_append, List.flatMap_append]

/-- A text that is not empty begins with a character. -/
theorem exists_utf8EncodeChar_prefix {t : String} (hne : encode t ≠ []) :
    ∃ c, String.utf8EncodeChar c <+: encode t := by
  rw [encode] at hne ⊢
  cases hcs : t.toList with
  | nil => exact absurd (by rw [hcs]; rfl) hne
  | cons c cs =>
    refine ⟨c, ?_⟩
    rw [List.flatMap_cons]
    exact List.prefix_append _ _

/-! ## What a fault allows for -/

/-- No text that begins like the bytes goes beyond the beginning of a fault. -/
theorem Faulty.not_longer {m rest : List UInt8} (h : Faulty m rest) {t u : String}
    (hu : encode u <+: encode t ++ (m ++ rest)) : (encode u).length ≤ (encode t).length := by
  refine Nat.le_of_not_lt fun hlt => ?_
  have hprefix : encode t <+: encode u :=
    List.prefix_of_prefix_length_le (List.prefix_append _ _) hu (Nat.le_of_lt hlt)
  obtain ⟨x, hx⟩ := hprefix
  have hrest : x <+: m ++ rest := by
    rw [← hx] at hu
    exact (List.prefix_append_right_inj _).mp hu
  obtain ⟨v, rfl⟩ := exists_encode_append_iff.mp ⟨u, hx.symm⟩
  have hne : encode v ≠ [] := by
    intro hnil
    rw [← hx, hnil, List.append_nil] at hlt
    exact Nat.lt_irrefl _ hlt
  obtain ⟨c, hc⟩ := exists_utf8EncodeChar_prefix hne
  exact h.no_char c (hc.trans hrest)

/-- Bytes that begin with a fault can be continued to a text just if they begin a character. -/
theorem Faulty.completable_iff {m rest : List UInt8} (h : Faulty m rest) :
    (∃ more, more ≠ [] ∧ ∃ v, encode v = m ++ rest ++ more) ↔ Begins (m ++ rest) := by
  constructor
  · rintro ⟨more, hmore, v, hv⟩
    have hne : encode v ≠ [] := by
      rw [hv]
      exact List.append_ne_nil_of_right_ne_nil _ hmore
    obtain ⟨c, hc⟩ := exists_utf8EncodeChar_prefix hne
    rw [hv] at hc
    -- the first character goes beyond what is there, since none stands at a fault
    rcases List.prefix_or_prefix_of_prefix hc (List.prefix_append (m ++ rest) more) with hc | hc
    · exact absurd hc (h.no_char c)
    · exact ⟨c, hc⟩
  · rintro ⟨c, more, hc⟩
    refine ⟨more, ?_, String.ofList [c], ?_⟩
    · rintro rfl
      rw [List.append_nil] at hc
      exact h.no_char c (hc ▸ List.prefix_rfl)
    · rw [hc, encode, String.toList_ofList]
      simp

/-- A fault is shorter than the longest characters. -/
theorem Faulty.length_le_three {m rest : List UInt8} (h : Faulty m rest) : m.length ≤ 3 := by
  rcases h.begins with ⟨c, hc⟩ | hone
  · have hlong : (String.utf8EncodeChar c).length ≤ 4 := by
      rw [String.length_utf8EncodeChar]
      exact c.utf8Size_le_four
    have hle := hc.length_le
    have hne : m.length ≠ (String.utf8EncodeChar c).length := by
      intro heq
      have hwhole : m = String.utf8EncodeChar c := hc.eq_of_length heq
      exact h.no_char c (hwhole ▸ List.prefix_append m rest)
    omega
  · omega

/-! ## The first fault -/

/-- The number of bytes before the fault. -/
def DecodeError.index : DecodeError → Nat
  | .invalid i _ | .incomplete i => i

/-- The fault that a segment is, if `i` bytes stand before it and it is one. -/
def Segment.fault? (i : Nat) : Segment → Option DecodeError
  | .scalar _ => none
  | .invalid m => some (.invalid i m.length)
  | .incomplete _ => some (.incomplete i)

theorem Segment.index_of_fault? {i : Nat} {s : Segment} {fault : DecodeError}
    (h : s.fault? i = some fault) : fault.index = i := by
  cases s <;> cases h <;> rfl

theorem Segment.lossy_of_fault? {i : Nat} {s : Segment} {fault : DecodeError}
    (h : s.fault? i = some fault) : s.lossy = replacement := by
  cases s <;> cases h <;> rfl

theorem Segment.Fits.faulty {i : Nat} {s : Segment} {fault : DecodeError} {rest : List UInt8}
    (hfits : s.Fits rest) (h : s.fault? i = some fault) : Faulty s.bytes rest := by
  cases s with
  | scalar c => cases h
  | invalid m => exact hfits.1
  | incomplete m => exact hfits.1

/-- A fault is incomplete just if some character begins with what is there. -/
theorem Segment.Fits.incomplete_iff {i : Nat} {s : Segment} {fault : DecodeError}
    {rest : List UInt8} (hfits : s.Fits rest) (h : s.fault? i = some fault) :
    fault = .incomplete i ↔ Begins (s.bytes ++ rest) := by
  cases s with
  | scalar c => cases h
  | invalid m =>
    cases h
    exact iff_of_false nofun hfits.2
  | incomplete m =>
    cases h
    obtain ⟨-, hbegins, rfl⟩ := hfits
    rw [List.append_nil]
    exact iff_of_true rfl hbegins

/-- Bytes can be cut between any two of their segments. -/
theorem exists_of_segments_eq_append {bytes : List UInt8} {l l' : List Segment} {s : Segment}
    (h : segments bytes = l ++ s :: l') :
    ∃ rest, bytes = l.flatMap Segment.bytes ++ (s.bytes ++ rest) ∧ s.Fits rest
      ∧ segments rest = l' := by
  induction bytes using segments_induction generalizing l with
  | nil =>
    rw [segments] at h
    exact absurd h.symm (List.append_ne_nil_of_right_ne_nil _ (List.cons_ne_nil _ _))
  | segment s' rest hfits hsegments ih =>
    rw [hsegments] at h
    cases l with
    | nil =>
      obtain ⟨rfl, hrest⟩ := List.cons.inj h
      exact ⟨rest, rfl, hfits, hrest⟩
    | cons s'' l =>
      obtain ⟨rfl, hrest⟩ := List.cons.inj h
      obtain ⟨rest', rfl, hfits', hrest'⟩ := ih hrest
      exact ⟨rest', by rw [List.flatMap_cons, List.append_assoc], hfits', hrest'⟩

theorem exists_of_charactersFrom_eq_error {i : Nat} {l : List Segment} {fault : DecodeError}
    (h : charactersFrom i l = .error fault) :
    ∃ (cs : List Char) (s : Segment) (l' : List Segment), l = cs.map .scalar ++ s :: l'
      ∧ s.fault? (i + (cs.flatMap String.utf8EncodeChar).length) = some fault := by
  induction l generalizing i with
  | nil => cases h
  | cons s l ih =>
    cases s with
    | scalar c =>
      obtain ⟨cs, s, l', rfl, hs⟩ := ih (exceptMap_eq_error_iff.mp h)
      refine ⟨c :: cs, s, l', rfl, ?_⟩
      rw [List.flatMap_cons, List.length_append, ← Nat.add_assoc]
      exact hs
    | invalid m =>
      cases h
      exact ⟨[], _, l, rfl, rfl⟩
    | incomplete m =>
      cases h
      exact ⟨[], _, l, rfl, rfl⟩

/-- Where strict decoding fails, there is a text, a segment that is the fault, and what is left. -/
theorem exists_of_decodeStrict_eq_error {bytes : List UInt8} {fault : DecodeError}
    (h : decodeStrict bytes = .error fault) :
    ∃ (t : String) (s : Segment) (rest : List UInt8), bytes = encode t ++ (s.bytes ++ rest)
      ∧ s.Fits rest ∧ s.fault? (encode t).length = some fault
      ∧ decodeLossy bytes = t ++ "\uFFFD" ++ decodeLossy rest := by
  obtain ⟨cs, s, l', hl, hs⟩ := exists_of_charactersFrom_eq_error (exceptMap_eq_error_iff.mp h)
  obtain ⟨rest, hbytes, hfits, rfl⟩ := exists_of_segments_eq_append hl
  have hcs : (cs.map Segment.scalar).flatMap Segment.bytes = encode (String.ofList cs) := by
    rw [List.flatMap_map, encode, String.toList_ofList]
    rfl
  rw [Nat.zero_add] at hs
  refine ⟨String.ofList cs, s, rest, hcs ▸ hbytes, hfits, ?_, ?_⟩
  · rw [encode, String.toList_ofList]
    exact hs
  · have hscalars : (cs.map Segment.scalar).map Segment.lossy = cs := by
      rw [List.map_map]
      exact List.map_id cs
    rw [decodeLossy, hl, List.map_append, hscalars, List.map_cons, Segment.lossy_of_fault? hs,
      List.append_cons, String.ofList_append, String.ofList_append]
    rfl

end Text

/-! ## Reading -/

namespace Decoding

theorem decode_strict_eq_error_iff {bytes : List UInt8} {e : ReadError} :
    strict.decode bytes = .error e ↔
      ∃ fault, Text.decodeStrict bytes = .error fault ∧ e = .decode fault := by
  rw [decode]
  cases Text.decodeStrict bytes <;> simp [Except.mapError, eq_comm]

/-- **Strict and lossy reading mean the same fault.** If a reader does not fail and strict reading
gives no text, the error tells where the longest text ends that the bytes begin with.
1. It is the incomplete form just if further bytes could complete a text. Lossy reading then gives
   the text before the fault and one replacement character.
2. Otherwise one to three bytes are at fault: those that agree with the beginning of a character,
   or the first of them. Lossy reading replaces them by one character and goes on behind them. -/
theorem strict_error_locates_fault (reader : List Delivery) (steady : ∀ e, .failure e ∉ reader)
    {e : ReadError} (failed : strict.read reader = .error e) :
    let bytes := delivered reader
    ∃ (fault : Text.DecodeError) (t : String), e = .decode fault
      ∧ fault.index < bytes.length
      ∧ Text.encode t = bytes.take fault.index
      ∧ (bytes.take fault.index).toByteArray.IsValidUTF8
      ∧ (∀ n, fault.index < n → n ≤ bytes.length → ¬ (bytes.take n).toByteArray.IsValidUTF8)
      ∧ (fault = .incomplete fault.index ↔
          ∃ more, more ≠ [] ∧ (bytes ++ more).toByteArray.IsValidUTF8)
      ∧ match fault with
        | .incomplete _ => lossy.read reader = .ok (t ++ "\uFFFD")
        | .invalid i n =>
          1 ≤ n ∧ n ≤ 3 ∧ Text.Faulty ((bytes.drop i).take n) (bytes.drop (i + n))
            ∧ lossy.read reader = .ok (t ++ "\uFFFD" ++ Text.decodeLossy (bytes.drop (i + n))) := by
  intro bytes
  rw [read_of_steady steady] at failed
  obtain ⟨fault, hfault, rfl⟩ := decode_strict_eq_error_iff.mp failed
  change Text.decodeStrict bytes = .error fault at hfault
  obtain ⟨t, s, rest, hbytes, hfits, hs, hlossy⟩ := Text.exists_of_decodeStrict_eq_error hfault
  have hfaulty : Text.Faulty s.bytes rest := hfits.faulty hs
  have hindex : fault.index = (Text.encode t).length := Text.Segment.index_of_fault? hs
  have htext : bytes.take fault.index = Text.encode t := by
    rw [hindex, hbytes, List.take_left]
  refine ⟨fault, t, rfl, ?inside, htext.symm, ?valid, ?longest, ?complete, ?lossy⟩
  case inside =>
    have hpos := List.length_pos_of_ne_nil hfaulty.ne_nil
    rw [hindex, hbytes, List.length_append, List.length_append]
    omega
  case valid => exact Text.isValidUTF8_iff.mpr ⟨t, htext.symm⟩
  case longest =>
    intro n hn hle hvalid
    obtain ⟨u, hu⟩ := Text.isValidUTF8_iff.mp hvalid
    have hshort : (Text.encode u).length ≤ (Text.encode t).length := by
      refine hfaulty.not_longer ?_
      rw [hu, ← hbytes]
      exact List.take_prefix n bytes
    rw [hu, List.length_take_of_le hle] at hshort
    omega
  case complete =>
    rw [hindex, hfits.incomplete_iff hs, ← hfaulty.completable_iff]
    refine exists_congr fun more => and_congr_right fun _ => ?_
    rw [Text.isValidUTF8_iff, hbytes, List.append_assoc (Text.encode t),
      Text.exists_encode_append_iff]
  case lossy =>
    have hread : lossy.read reader = .ok (t ++ "\uFFFD" ++ Text.decodeLossy rest) := by
      rw [read_of_steady steady, ← hlossy]
      rfl
    cases s with
    | scalar c => cases hs
    | incomplete m =>
      cases hs
      obtain ⟨-, -, rfl⟩ := hfits
      have hnil : Text.decodeLossy [] = "" := Text.decodeLossy_encode ""
      rw [hnil, String.append_empty] at hread
      exact hread
    | invalid m =>
      cases hs
      have hdrop : bytes.drop (Text.encode t).length = m ++ rest := by
        rw [hbytes, List.drop_left]
        rfl
      have hbehind : bytes.drop ((Text.encode t).length + m.length) = rest := by
        rw [← List.drop_drop, hdrop, List.drop_left]
      have hstretch : (bytes.drop (Text.encode t).length).take m.length = m := by
        rw [hdrop, List.take_left]
      show 1 ≤ m.length ∧ m.length ≤ 3 ∧ _
      rw [hbehind, hstretch]
      exact ⟨List.length_pos_of_ne_nil hfaulty.ne_nil, hfaulty.length_le_three, hfaulty, hread⟩

/-- A character that goes on with a wrong byte, and behind it one that the end cuts off. -/
theorem strict_error_locates_fault_twice :
    let reader : List Delivery := [.bytes [0x61, 0xE2], .interrupted, .bytes [0x82, 0x41, 0xF0]]
    let error : ReadError := .decode (.invalid 1 2)
    (∀ e, .failure e ∉ reader) ∧ strict.read reader = .error error
      ∧ lossy.read reader = .ok "a\uFFFDA\uFFFD" := by
  intro reader error
  have steady : ∀ e, .failure e ∉ reader := by simp [reader]
  have failed : strict.read reader = .error error := by decide +kernel
  refine ⟨steady, failed, ?_⟩
  obtain ⟨fault, t, hfault, -, ht, -, -, -, hlossy⟩ :=
    strict_error_locates_fault reader steady failed
  obtain rfl : .invalid 1 2 = fault := ReadError.decode.inj hfault
  obtain rfl : "a" = t := by
    have hstrict : strict.decode [0x61] = .ok t := decode_strict_eq_ok_iff.mpr ht
    have ha : strict.decode [0x61] = .ok "a" := decode_strict_eq_ok_iff.mpr (by decide)
    exact Except.ok.inj (ha.symm.trans hstrict)
  exact hlossy.2.2.2.trans (by decide +kernel)

end Decoding

end ScriptHost
