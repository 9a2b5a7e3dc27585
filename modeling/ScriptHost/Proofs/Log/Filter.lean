import Mathlib.Data.String.Basic
import ScriptHost.Log.Filter

/-!
# Levels as log filters

A setting that is the name of a level lets the events through that matter at least as much.

- `splitOn_comma_of_not_mem`: a text without a comma is one part of a filter.
- `Level.name`: the name of a level in a setting.
- `Filter.ofSetting_name`: the filter of a name.
- `Filter.enables_ofSetting_name`: the events that it lets through.
-/

namespace ScriptHost.Log

open String

/-- Splitting at commas goes through a text without one to its end. -/
theorem splitOnAux_comma_of_not_mem (before after : List Char) (hcomma : ',' ∉ after) :
    splitOnAux (ofList (before ++ after)) "," 0 ⟨utf8Len before⟩ 0 []
      = [ofList (before ++ after)] := by
  induction after generalizing before with
  | nil =>
    have hend : Pos.Raw.atEnd (ofList (before ++ [])) ⟨utf8Len before⟩ = true :=
      (atEnd_of_valid before []).2 rfl
    have hall : Pos.Raw.extract (ofList (before ++ [])) 0 ⟨utf8Len before⟩
        = ofList (before ++ []) := by
      simpa using extract_of_valid [] before []
    rw [splitOnAux, if_pos hend, hall]
    rfl
  | cons c rest ih =>
    have hend : ¬ Pos.Raw.atEnd (ofList (before ++ c :: rest)) ⟨utf8Len before⟩ = true :=
      fun h => List.cons_ne_nil _ _ ((atEnd_of_valid before (c :: rest)).1 h)
    have hget : Pos.Raw.get (ofList (before ++ c :: rest)) ⟨utf8Len before⟩ = c :=
      get_of_valid before (c :: rest)
    have hother : ¬ (c == Pos.Raw.get "," 0) = true := by
      intro h
      exact hcomma (List.mem_cons.2 (.inl (eq_of_beq h).symm))
    have hrest := ih (before ++ [c]) fun h => hcomma (List.mem_cons_of_mem c h)
    rw [List.append_assoc, List.singleton_append, utf8Len_append, utf8Len_cons, utf8Len_nil,
      Nat.zero_add] at hrest
    rw [splitOnAux, if_neg hend, hget, if_neg hother]
    -- No part of a comma was read, so the place to go on from is the next one.
    show splitOnAux _ _ _ (Pos.Raw.next _ ⟨utf8Len before - 0⟩) _ _ = _
    rw [Nat.sub_zero, next_of_valid before c rest]
    exact hrest

theorem splitOn_comma_of_not_mem {s : String} (hcomma : ',' ∉ s.toList) : s.splitOn "," = [s] := by
  have hsplit := splitOnAux_comma_of_not_mem [] s.toList hcomma
  rwa [List.nil_append, ofList_toList] at hsplit

/-- The name of a level in a setting. -/
def Level.name : Level → String
  | error => "error"
  | warn => "warn"
  | info => "info"
  | debug => "debug"
  | trace => "trace"

namespace Filter

/-- The name of a level is one directive, for all targets. -/
theorem ofSetting_name (level : Level) :
    ofSetting level.name = ⟨[⟨none, none, false, level.rank⟩]⟩ := by
  have hwhole : level.name.splitOn "," = [level.name] :=
    splitOn_comma_of_not_mem (by cases level <;> decide)
  have hdirective : Directive.parse? level.name = some ⟨none, none, false, level.rank⟩ := by
    cases level <;> decide +kernel
  have hparts : [level.name].filter (· != "") = [level.name] := by
    cases level <;> rfl
  have hparse : parse? level.name = some ⟨[⟨none, none, false, level.rank⟩]⟩ := by
    rw [parse?, hwhole, hparts, List.mapM_cons, hdirective]
    rfl
  rw [ofSetting, hparse]
  rfl

/-- It lets the events through that matter at least as much. -/
theorem enables_ofSetting_name (level : Level) (e : Event) :
    (ofSetting level.name).enables e = decide (e.level.rank ≤ level.rank) := by
  rw [ofSetting_name]
  rfl

end Filter

end ScriptHost.Log
