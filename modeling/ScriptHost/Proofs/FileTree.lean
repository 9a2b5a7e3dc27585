import ScriptHost.FileTree

/-!
# What a path depends on

Where a path leads depends on the files on its way only. As there are no links, the way can be told
from the names of the path alone.

- `FileTree.AgreeOff`: two trees with the same files but for those under a name.
- `at?_eq_of_agreeOff`: what stands under any other name.
- `Path.walk`, `Path.Avoids`: the way of a path, and paths that do not come by a name.
- `enter_eq_of_agreeOff`, `foldlM_enter_eq_of_agreeOff`: one step, and the rest of a way.
- `resolve_eq_of_agreeOff`: where a path leads.
-/

namespace ScriptHost

/-! ## Trees that differ under one name -/

namespace FileTree

/-- The files that do not stand under a name. -/
def placesOff (t : FileTree) (name : Path) : List (List Path × Option FileContent) :=
  t.places.filter (·.1.head? != some name)

/-- Two trees have the same files but for those under a name. -/
def AgreeOff (name : Path) (t t' : FileTree) : Prop := t.placesOff name = t'.placesOff name

/-- What stands under any other name does not depend on the files under a name. -/
theorem at?_placesOff (t : FileTree) {name first : Path} (rest : List Path)
    (hfirst : first ≠ name) :
    (⟨t.placesOff name⟩ : FileTree).at? (first :: rest) = t.at? (first :: rest) := by
  have hoff : (some first != some name) = true :=
    bne_iff_ne.2 fun heq => hfirst (Option.some.inj heq)
  have hfind : (t.placesOff name).find? (·.1 == first :: rest)
      = t.places.find? (·.1 == first :: rest) := by
    rw [placesOff, List.find?_filter]
    refine congrArg (List.find? · t.places) (funext fun place => ?_)
    by_cases hplace : place.1 = first :: rest
    · rw [hplace, List.head?_cons, hoff, beq_self_eq_true]
      rfl
    · rw [beq_eq_false_iff_ne.2 hplace]
      exact decide_eq_false fun heq => nomatch heq.2
  have hany : (t.placesOff name).any ((first :: rest).isPrefixOf ·.1)
      = t.places.any ((first :: rest).isPrefixOf ·.1) := by
    rw [placesOff, List.any_filter]
    refine congrArg (List.any t.places) (funext fun place => ?_)
    cases hplace : (first :: rest).isPrefixOf place.1 with
    | false => rw [Bool.and_false]
    | true =>
      obtain ⟨suffix, hsuffix⟩ := List.isPrefixOf_iff_prefix.1 hplace
      rw [← hsuffix, List.cons_append, List.head?_cons, hoff, Bool.and_true]
  rw [at?, at?, hfind, hany]

theorem at?_eq_of_agreeOff {t t' : FileTree} {name first : Path} (hagree : AgreeOff name t t')
    (rest : List Path) (hfirst : first ≠ name) :
    t.at? (first :: rest) = t'.at? (first :: rest) := by
  rw [← t.at?_placesOff rest hfirst, ← t'.at?_placesOff rest hfirst, hagree]

end FileTree

/-! ## The way of a path -/

namespace Path

/-- One step of a way: the names that lead to a place of the tree, and after the step. Outside of
the tree there are none. -/
def walk (place : Option (List Path)) (name : Path) : Option (List Path) :=
  if FileTree.staysHere name then place
  else if FileTree.goesUp name then
    place.bind fun names => if names.isEmpty then none else some names.dropLast
  else place.map (· ++ [name])

/-- Whether a way through names does not come by a name at the top of the tree. -/
def avoids (name : Path) : Option (List Path) → List Path → Bool
  | place, [] => place != some [name]
  | place, next :: rest => place != some [name] && avoids name (walk place next) rest

/-- Whether a path does not come by a name at the top of the tree. -/
def Avoids (path name : Path) : Prop :=
  avoids name (if path.head? == some separator then none else some []) path.names = true

instance (path name : Path) : Decidable (path.Avoids name) :=
  inferInstanceAs (Decidable (_ = true))

theorem ne_of_avoids {name : Path} {place : Option (List Path)} {names : List Path}
    (havoids : avoids name place names = true) : place ≠ some [name] := by
  cases names with
  | nil => exact bne_iff_ne.1 havoids
  | cons next rest => exact bne_iff_ne.1 (Bool.and_eq_true_iff.1 havoids).1

/-- A way that starts under other names and does not come by a name stays under other names. -/
theorem walk_ne {name next : Path} {place : Option (List Path)}
    (hplace : ∀ rest, place ≠ some (name :: rest)) (hnext : walk place next ≠ some [name])
    (rest : List Path) : walk place next ≠ some (name :: rest) := by
  intro hwalk
  rw [hwalk] at hnext
  rw [walk] at hwalk
  split at hwalk
  · exact hplace rest hwalk
  · split at hwalk
    · obtain ⟨names, rfl, hnames⟩ := Option.bind_eq_some_iff.1 hwalk
      split at hnames
      · cases hnames
      · cases names with
        | nil => cases hnames
        | cons first others =>
          have hhead := congrArg List.head? (Option.some.inj hnames)
          cases others with
          | nil => cases hhead
          | cons second others =>
            cases hhead
            exact hplace _ rfl
    · obtain ⟨names, rfl, hnames⟩ := Option.map_eq_some_iff.1 hwalk
      cases names with
      | nil =>
        cases hnames
        exact hnext rfl
      | cons first others =>
        cases hnames
        exact hplace _ rfl

end Path

namespace FileTree

/-- A target is where names lead to. From a file nothing leads on. -/
def Target.StandsAt (place : Option (List Path)) : Target → Prop
  | file _ | withheld => True
  | directory names => place = some names
  | outside => place = none

variable {t t' : FileTree} {name next : Path} {place : Option (List Path)} {target : Target}

theorem standsAt_of_at? {names : List Path} (hat : t.at? names = some target) :
    target.StandsAt (some names) := by
  rw [at?] at hat
  split at hat
  · cases hat
    trivial
  · cases hat
    trivial
  · cases hat
    rfl
  · split at hat
    · cases hat
      rfl
    · cases hat

/-- A step in the tree goes where the name says. -/
theorem standsAt_enter {target' : Target} (htarget : target.StandsAt place)
    (henter : t.enter target next = .ok target') : target'.StandsAt (Path.walk place next) := by
  rw [Path.walk]
  cases target with
  | file _ | withheld => cases henter
  | outside =>
    obtain rfl : place = none := htarget
    rw [enter] at henter
    split at henter
    · cases henter
      rw [Option.bind_none, Option.map_none, ite_self, ite_self]
      rfl
    · split at henter <;> cases henter
  | directory names =>
    obtain rfl : place = some names := htarget
    rw [enter] at henter
    split at henter
    · rename_i hstays
      cases henter
      rw [if_pos hstays]
      rfl
    · rename_i hstays
      rw [if_neg hstays]
      split at henter
      · rename_i hup
        cases henter
        rw [if_pos hup, Option.bind_some]
        split <;> rfl
      · rename_i hup
        rw [if_neg hup]
        split at henter
        · cases henter
        · split at henter
          · rename_i hat
            cases henter
            exact standsAt_of_at? hat
          · cases henter

/-- A step that does not come by a name does not depend on the files under it. -/
theorem enter_eq_of_agreeOff (hagree : AgreeOff name t t') (htarget : target.StandsAt place)
    (hplace : ∀ rest, place ≠ some (name :: rest)) (hnext : Path.walk place next ≠ some [name]) :
    t.enter target next = t'.enter target next := by
  cases target with
  | file _ | withheld | outside => rfl
  | directory names =>
    obtain rfl : place = some names := htarget
    rw [enter, enter]
    by_cases hstays : staysHere next = true
    · rw [if_pos hstays, if_pos hstays]
    by_cases hup : goesUp next = true
    · rw [if_neg hstays, if_neg hstays, if_pos hup, if_pos hup]
    have hat : t.at? (names ++ [next]) = t'.at? (names ++ [next]) := by
      cases names with
      | nil =>
        rw [Path.walk, if_neg hstays, if_neg hup] at hnext
        exact at?_eq_of_agreeOff hagree [] fun heq => hnext (heq ▸ rfl)
      | cons first others =>
        exact at?_eq_of_agreeOff hagree _ fun heq => hplace others (heq ▸ rfl)
    rw [if_neg hstays, if_neg hstays, if_neg hup, if_neg hup, hat]

/-- Nor does the rest of a way that does not come by the name. -/
theorem foldlM_enter_eq_of_agreeOff {names : List Path} (hagree : AgreeOff name t t')
    (htarget : target.StandsAt place) (hplace : ∀ rest, place ≠ some (name :: rest))
    (havoids : Path.avoids name place names = true) :
    names.foldlM t.enter target = names.foldlM t'.enter target := by
  induction names generalizing place target with
  | nil => rfl
  | cons next rest ih =>
    have hrest : Path.avoids name (Path.walk place next) rest = true :=
      (Bool.and_eq_true_iff.1 havoids).2
    have hnext := Path.ne_of_avoids hrest
    rw [List.foldlM_cons, List.foldlM_cons, ← enter_eq_of_agreeOff hagree htarget hplace hnext]
    cases henter : t.enter target next with
    | error e => rfl
    | ok target' =>
      exact ih (standsAt_enter htarget henter) (Path.walk_ne hplace hnext) hrest

/-- A path that does not come by a name leads to the same place, whatever files are under it. -/
theorem resolve_eq_of_agreeOff {path : Path} (hagree : AgreeOff name t t')
    (havoids : path.Avoids name) : t.resolve path = t'.resolve path := by
  have hway : path.names.foldlM t.enter
        (if path.head? == some Path.separator then .outside else .directory [])
      = path.names.foldlM t'.enter
        (if path.head? == some Path.separator then .outside else .directory []) := by
    refine foldlM_enter_eq_of_agreeOff hagree ?_ ?_ havoids
    · split <;> rfl
    · intro rest
      split <;> exact fun heq => nomatch heq
  rw [resolve, resolve]
  simp only [hway]

end FileTree

end ScriptHost
