import Mathlib.Logic.ExistsUnique
import QueryDesk.CommandLine.Database

/-!
# The operand before the command

The path of a database is an operand: a word that stands behind the program's name and
before any command, and that belongs to no flag.  Which arguments belong to flags is told
from the left, because the value of a flag may itself be written like a flag or like a
command.  An argument is a value if the one before it is a flag that takes a value and is
no value itself; so every place is decided by the place before it.

Taking the database out is a walk from the left as well.  It passes over flags with their
values, and it ends at the end, at a command, or at the first operand.

## Main results

* `walk_takeDatabase` — what the walk passes over, and where it ends.
* `PassedOver.not_isWord` — nothing that it passes over is a word.
* `splitDatabase_first_operand` — the database is the first operand, and nothing else is
  touched.
-/

namespace QueryDesk.CommandLine

/-! ## Places on a command line -/

section Places

variable (argv : List String)

/-- The argument at a place is the value of the flag before it, unless that is the
program's name, or a value itself. -/
def IsValue : Nat → Prop
  | 0 => False
  | i + 1 => i ≠ 0 ∧ (∃ flag ∈ valueFlags, argv[i]? = some flag) ∧ ¬ IsValue i

/-- The argument at a place is neither the program's name, nor a flag, nor the value of one. -/
structure IsWord (i : Nat) : Prop where
  behind : i ≠ 0
  unflagged : argv[i]?.map isFlag = some false
  free : ¬ IsValue argv i

/-- The argument at a place is a command. -/
structure IsCommand (i : Nat) : Prop extends IsWord argv i where
  named : ∃ name ∈ commandNames, argv[i]? = some name

/-- The argument at a place is a word before any command. -/
structure IsOperand (i : Nat) : Prop extends IsWord argv i where
  before : ∀ c ≤ i, ¬ IsCommand argv c

/-- The place of the first operand. -/
structure FirstOperand (i : Nat) : Prop extends IsOperand argv i where
  first : ∀ j < i, ¬ IsOperand argv j

instance IsValue.decidable : (i : Nat) → Decidable (IsValue argv i)
  | 0 => .isFalse id
  | i + 1 =>
    have := IsValue.decidable i
    inferInstanceAs (Decidable (_ ∧ _ ∧ _))

instance (i : Nat) : Decidable (IsWord argv i) :=
  decidable_of_iff (i ≠ 0 ∧ argv[i]?.map isFlag = some false ∧ ¬ IsValue argv i)
    ⟨fun ⟨hbehind, hunflagged, hfree⟩ => ⟨hbehind, hunflagged, hfree⟩,
      fun h => ⟨h.behind, h.unflagged, h.free⟩⟩

instance (i : Nat) : Decidable (IsCommand argv i) :=
  decidable_of_iff (IsWord argv i ∧ ∃ name ∈ commandNames, argv[i]? = some name)
    ⟨fun ⟨hword, hnamed⟩ => ⟨hword, hnamed⟩, fun h => ⟨h.toIsWord, h.named⟩⟩

instance (i : Nat) : Decidable (IsOperand argv i) :=
  decidable_of_iff (IsWord argv i ∧ ∀ c ≤ i, ¬ IsCommand argv c)
    ⟨fun ⟨hword, hbefore⟩ => ⟨hword, hbefore⟩, fun h => ⟨h.toIsWord, h.before⟩⟩

instance (i : Nat) : Decidable (FirstOperand argv i) :=
  decidable_of_iff (IsOperand argv i ∧ ∀ j < i, ¬ IsOperand argv j)
    ⟨fun ⟨hoperand, hfirst⟩ => ⟨hoperand, hfirst⟩, fun h => ⟨h.toIsOperand, h.first⟩⟩

end Places

theorem IsWord.exists_get {argv : List String} {i : Nat} (h : IsWord argv i) :
    ∃ arg, argv[i]? = some arg ∧ isFlag arg = false :=
  Option.map_eq_some_iff.mp h.unflagged

theorem not_isWord_of_flag {argv : List String} {i : Nat} {arg : String}
    (hget : argv[i]? = some arg) (hflag : isFlag arg = true) : ¬ IsWord argv i := fun hword => by
  have hplain := hword.unflagged
  rw [hget, Option.map_some, hflag] at hplain
  cases hplain

theorem FirstOperand.unique {argv : List String} {i j : Nat} (hi : FirstOperand argv i)
    (hj : FirstOperand argv j) : i = j := by
  rcases Nat.lt_trichotomy i j with hlt | heq | hgt
  · exact absurd hi.toIsOperand (hj.first i hlt)
  · exact heq
  · exact absurd hj.toIsOperand (hi.first j hgt)

/-! ## What is passed over -/

/-- Flags in a row, each that takes a value with its value. -/
inductive PassedOver : List String → Prop where
  | nil : PassedOver []
  | flag {arg : String} {rest : List String} (hflag : isFlag arg = true)
      (halone : arg ∉ valueFlags) (h : PassedOver rest) : PassedOver (arg :: rest)
  | pair {flag value : String} {rest : List String} (hflag : flag ∈ valueFlags)
      (h : PassedOver rest) : PassedOver (flag :: value :: rest)

theorem isFlag_of_mem_valueFlags {flag : String} (h : flag ∈ valueFlags) : isFlag flag = true := by
  simp only [valueFlags, List.mem_cons, List.not_mem_nil, or_false] at h
  rcases h with rfl | rfl <;> rfl

theorem PassedOver.append {before more : List String} (hbefore : PassedOver before)
    (hmore : PassedOver more) : PassedOver (before ++ more) := by
  induction hbefore with
  | nil => exact hmore
  | flag hflag halone _ ih => exact .flag hflag halone ih
  | pair hflag _ ih => exact .pair hflag ih

/-- Nothing that is passed over is a word, and what stands behind it is no value. -/
theorem PassedOver.not_isWord {before : List String} (h : PassedOver before)
    {front : List String} (hfront : front ≠ []) (after : List String)
    (hfree : ¬ IsValue (front ++ (before ++ after)) front.length) :
    (∀ i, front.length ≤ i → i < front.length + before.length →
        ¬ IsWord (front ++ (before ++ after)) i) ∧
      ¬ IsValue (front ++ (before ++ after)) (front.length + before.length) := by
  induction h generalizing front with
  | nil => exact ⟨fun i hi hi' => by simp at hi'; omega, hfree⟩
  | @flag arg rest hflag halone _ ih =>
      let argv := front ++ (arg :: rest ++ after)
      have hargv : argv = (front ++ [arg]) ++ (rest ++ after) := by simp [argv]
      have harg : argv[front.length]? = some arg := by simp [argv]
      have hnext : ¬ IsValue argv (front ++ [arg]).length := by
        rw [List.length_append]
        rintro ⟨-, ⟨flag, hmem, hget⟩, -⟩
        rw [harg] at hget
        exact halone (Option.some.inj hget ▸ hmem)
      have hrest := ih (by simp) (hargv ▸ hnext)
      rw [← hargv, List.length_append, List.length_singleton] at hrest
      refine ⟨fun i hi hi' hword => ?_, ?_⟩
      · rcases Nat.eq_or_lt_of_le hi with rfl | hlt
        · exact not_isWord_of_flag harg hflag hword
        · exact hrest.1 i hlt (by simp at hi'; omega) hword
      · rw [List.length_cons, Nat.add_comm rest.length, ← Nat.add_assoc]
        exact hrest.2
  | @pair flag value rest hmem _ ih =>
      let argv := front ++ (flag :: value :: rest ++ after)
      have hargv : argv = (front ++ [flag, value]) ++ (rest ++ after) := by simp [argv]
      have hget : argv[front.length]? = some flag := by simp [argv]
      have hvalue : IsValue argv (front.length + 1) :=
        ⟨by simpa using hfront, ⟨flag, hmem, hget⟩, hfree⟩
      have hnext : ¬ IsValue argv (front ++ [flag, value]).length := by
        rw [List.length_append]
        rintro ⟨-, -, hfree'⟩
        exact hfree' hvalue
      have hrest := ih (by simp) (hargv ▸ hnext)
      rw [← hargv, List.length_append, List.length_cons, List.length_singleton] at hrest
      refine ⟨fun i hi hi' hword => ?_, ?_⟩
      · rcases Nat.eq_or_lt_of_le hi with rfl | hlt
        · exact not_isWord_of_flag hget (isFlag_of_mem_valueFlags hmem) hword
        · rcases Nat.eq_or_lt_of_le hlt with rfl | hlt'
          · exact hword.free hvalue
          · exact hrest.1 i hlt' (by simp at hi'; omega) hword
      · have hlength : front.length + (flag :: value :: rest).length =
            front.length + (1 + 1) + rest.length := by
          simp only [List.length_cons]
          omega
        rw [hlength]
        exact hrest.2

/-! ## The walk -/

section Steps

variable {found : Option String} {arg : String} {rest : List String}

theorem takeDatabase_flag (hflag : isFlag arg = true) (halone : arg ∉ valueFlags) :
    takeDatabase found (arg :: rest) =
      ((takeDatabase found rest).1, arg :: (takeDatabase found rest).2) := by
  have hcontains : valueFlags.contains arg = false := by simpa using halone
  rw [takeDatabase.eq_def]
  simp only [hflag, hcontains, if_true]

theorem takeDatabase_pair (hflag : arg ∈ valueFlags) (value : String) :
    takeDatabase found (arg :: value :: rest) =
      ((takeDatabase found rest).1, arg :: value :: (takeDatabase found rest).2) := by
  have hcontains : valueFlags.contains arg = true := by simpa using hflag
  rw [takeDatabase.eq_def]
  simp only [isFlag_of_mem_valueFlags hflag, hcontains, if_true]

theorem takeDatabase_command (hname : isFlag arg = false) (hmem : arg ∈ commandNames) :
    takeDatabase found (arg :: rest) = (found, arg :: rest) := by
  rw [takeDatabase.eq_def]
  simp [hname, hmem]

/-- Once a database was found, nothing more is taken out. -/
theorem takeDatabase_some (d : String) (args : List String) :
    takeDatabase (some d) args = (some d, args) := by
  generalize hfound : some d = found
  fun_induction takeDatabase found args <;> simp_all

theorem takeDatabase_operand (harg : isFlag arg = false) (hnot : arg ∉ commandNames) :
    takeDatabase none (arg :: rest) = (some arg, rest) := by
  rw [takeDatabase.eq_def]
  simp [harg, hnot, takeDatabase_some]

end Steps

/-- What is passed over is kept, and decides nothing. -/
theorem takeDatabase_passedOver {before : List String} (h : PassedOver before)
    (found : Option String) (after : List String) :
    takeDatabase found (before ++ after) =
      ((takeDatabase found after).1, before ++ (takeDatabase found after).2) := by
  induction h with
  | nil => rfl
  | flag hflag halone _ ih =>
      rw [List.cons_append, takeDatabase_flag hflag halone, ih, List.cons_append]
  | pair hflag _ ih =>
      rw [List.cons_append, List.cons_append, takeDatabase_pair hflag, ih, List.cons_append,
        List.cons_append]

/-- The walk over the arguments with what it answers: it ends at the end, maybe behind a
flag whose value is missing, at a command, or at an operand, which is taken out. -/
inductive Walk : List String → Option String × List String → Prop where
  | flags {args : List String} (h : PassedOver args) : Walk args (none, args)
  | short {before : List String} {flag : String} (h : PassedOver before)
      (hflag : flag ∈ valueFlags) : Walk (before ++ [flag]) (none, before ++ [flag])
  | command {before : List String} {name : String} (h : PassedOver before)
      (hname : isFlag name = false) (hmem : name ∈ commandNames) (after : List String) :
      Walk (before ++ name :: after) (none, before ++ name :: after)
  | operand {before : List String} {arg : String} (h : PassedOver before)
      (harg : isFlag arg = false) (hnot : arg ∉ commandNames) (after : List String) :
      Walk (before ++ arg :: after) (some arg, before ++ after)

/-- What is passed over first is kept, and decides nothing. -/
theorem Walk.behind {more args : List String} {answer : Option String × List String}
    (hmore : PassedOver more) (h : Walk args answer) :
    Walk (more ++ args) (answer.1, more ++ answer.2) := by
  cases h with
  | flags h => exact .flags (hmore.append h)
  | short h hflag =>
      simp only [← List.append_assoc]
      exact .short (hmore.append h) hflag
  | command h hname hmem after =>
      simp only [← List.append_assoc]
      exact .command (hmore.append h) hname hmem after
  | operand h harg hnot after =>
      simp only [← List.append_assoc]
      exact .operand (hmore.append h) harg hnot after

/-- **Taking the database out is such a walk.** -/
theorem walk_takeDatabase (args : List String) : Walk args (takeDatabase none args) := by
  induction hn : args.length using Nat.strongRecOn generalizing args with
  | _ n ih =>
    cases args with
    | nil => exact .flags .nil
    | cons arg rest =>
        cases hflag : isFlag arg with
        | true =>
            by_cases hmem : arg ∈ valueFlags
            · cases rest with
              | nil =>
                  have hlast : takeDatabase none [arg] = (none, [arg]) := by
                    rw [takeDatabase.eq_def]
                    simp [hflag, takeDatabase]
                  rw [hlast]
                  exact .short .nil hmem
              | cons value rest =>
                  rw [takeDatabase_pair hmem]
                  have hlt : rest.length < n := by
                    rw [← hn, List.length_cons, List.length_cons]
                    omega
                  have hrest := ih rest.length hlt rest rfl
                  exact hrest.behind (.pair hmem .nil)
            · rw [takeDatabase_flag hflag hmem]
              have hlt : rest.length < n := by
                rw [← hn, List.length_cons]
                omega
              have hrest := ih rest.length hlt rest rfl
              exact hrest.behind (.flag hflag hmem .nil)
        | false =>
            by_cases hname : arg ∈ commandNames
            · rw [takeDatabase_command hflag hname]
              exact .command .nil hflag hname rest
            · rw [takeDatabase_operand hflag hname]
              exact .operand .nil hflag hname rest

/-! ## Words behind the program's name -/

section Words

variable {program : String} {before : List String}

/-- Behind the program's name nothing that is passed over is a word, and what comes next is
no value. -/
theorem PassedOver.not_isWord_behind (h : PassedOver before) (program : String)
    (after : List String) :
    (∀ i ≤ before.length, ¬ IsWord (program :: (before ++ after)) i) ∧
      ¬ IsValue (program :: (before ++ after)) (before.length + 1) := by
  have hfree : ¬ IsValue ([program] ++ (before ++ after)) [program].length :=
    fun hvalue => hvalue.1 rfl
  obtain ⟨hwords, hnext⟩ := h.not_isWord (List.cons_ne_nil _ _) after hfree
  refine ⟨fun i hi hword => ?_, ?_⟩
  · have hpos := Nat.pos_of_ne_zero hword.behind
    exact hwords i hpos (by simp only [List.length_singleton]; omega) hword
  · rwa [List.length_singleton, Nat.add_comm] at hnext

/-- What comes next is a word, unless it is a flag. -/
theorem PassedOver.isWord_next (h : PassedOver before) {arg : String} (harg : isFlag arg = false)
    (after : List String) : IsWord (program :: (before ++ arg :: after)) (before.length + 1) where
  behind := Nat.succ_ne_zero _
  unflagged := by simp [harg]
  free := (h.not_isWord_behind program (arg :: after)).2

/-- There is no operand where the words begin with a command, or where there are none. -/
theorem not_isOperand_of_words {argv : List String} {n : Nat} (hwords : ∀ i ≤ n, ¬ IsWord argv i)
    (hend : argv.length ≤ n + 1 ∨ IsCommand argv (n + 1)) (i : Nat) : ¬ IsOperand argv i := by
  intro hoperand
  have hi : n < i := Nat.lt_of_not_le fun hle => hwords i hle hoperand.toIsWord
  rcases hend with hshort | hcommand
  · obtain ⟨arg, hget, -⟩ := hoperand.exists_get
    have hlt : i < argv.length := (List.getElem?_eq_some_iff.mp hget).1
    omega
  · exact hoperand.before (n + 1) hi hcommand

end Words

/-- Taking the database out, by the operands that there are. -/
inductive Split (argv : List String) : Option String × List String → Prop where
  /-- Nothing is taken out, for there is no operand. -/
  | whole (h : ∀ i, ¬ IsOperand argv i) : Split argv (none, argv)
  /-- The first operand is taken out. -/
  | first {i : Nat} {db : String} (hfirst : FirstOperand argv i) (hget : argv[i]? = some db) :
      Split argv (some db, argv.eraseIdx i)

/-- **What is taken out** is the first operand. -/
theorem split_splitDatabase (argv : List String) : Split argv (splitDatabase argv) := by
  cases argv with
  | nil => exact .whole fun i h => by simpa using h.unflagged
  | cons program args =>
      have hwalk := walk_takeDatabase args
      rw [splitDatabase]
      generalize takeDatabase none args = answer at hwalk ⊢
      cases hwalk with
      | flags h =>
          have hwords := (h.not_isWord_behind program []).1
          rw [List.append_nil] at hwords
          exact .whole (not_isOperand_of_words hwords (.inl (by simp)))
      | @short before flag h hflag =>
          have hwords : ∀ i ≤ before.length + 1, ¬ IsWord (program :: (before ++ [flag])) i := by
            intro i hi hword
            rcases Nat.eq_or_lt_of_le hi with rfl | hlt
            · exact not_isWord_of_flag (by simp) (isFlag_of_mem_valueFlags hflag) hword
            · exact (h.not_isWord_behind program [flag]).1 i (Nat.le_of_lt_succ hlt) hword
          exact .whole (not_isOperand_of_words hwords (.inl (by simp)))
      | @command before name h hname hmem after =>
          have hcommand : IsCommand (program :: (before ++ name :: after)) (before.length + 1) :=
            { h.isWord_next hname after with named := ⟨name, hmem, by simp⟩ }
          have hwords := (h.not_isWord_behind program (name :: after)).1
          exact .whole (not_isOperand_of_words hwords (.inr hcommand))
      | @operand before arg h harg hnot after =>
          have hget : (program :: (before ++ arg :: after))[before.length + 1]? = some arg := by
            simp
          have hwords := (h.not_isWord_behind program (arg :: after)).1
          have hoperand : IsOperand (program :: (before ++ arg :: after)) (before.length + 1) :=
            { h.isWord_next harg after with
              before := fun c hc hcommand => by
                rcases Nat.eq_or_lt_of_le hc with rfl | hlt
                · obtain ⟨name, hmem, hname⟩ := hcommand.named
                  obtain rfl : arg = name := Option.some.inj (hget.symm.trans hname)
                  exact hnot hmem
                · exact hwords c (Nat.le_of_lt_succ hlt) hcommand.toIsWord }
          have hfirst : FirstOperand (program :: (before ++ arg :: after)) (before.length + 1) :=
            { hoperand with
              first := fun j hj h => hwords j (Nat.le_of_lt_succ hj) h.toIsWord }
          have herase : (program :: (before ++ arg :: after)).eraseIdx (before.length + 1) =
              program :: (before ++ after) := by
            simp [List.eraseIdx_append_of_length_le]
          show Split _ (some arg, program :: (before ++ after))
          rw [← herase]
          exact .first hfirst hget

/-- **The database is the first operand, and nothing else is touched.**  If no database is
found, the arguments stay as they are, and each of them that stands behind the program's name
and before any command is a flag or the value of one.  Otherwise exactly one argument is
taken out, at a place behind the program's name, and it is the first word that belongs to no
flag and that no command stands before.  From a command on, everything stays as it is. -/
theorem splitDatabase_first_operand (argv : List String) :
    (match splitDatabase argv with
      | (none, rest) =>
          rest = argv ∧ ∀ i arg, 1 ≤ i → argv[i]? = some arg →
            (∀ c ≤ i, ¬ IsCommand argv c) → isFlag arg = true ∨ IsValue argv i
      | (some db, rest) =>
          ∃! i, 1 ≤ i ∧ argv[i]? = some db ∧ rest = argv.eraseIdx i ∧ FirstOperand argv i) ∧
    ∀ c, IsCommand argv c →
      ∃ kept, (splitDatabase argv).2 = kept ++ argv.drop c ∧ kept.Sublist (argv.take c) := by
  have hsplit := split_splitDatabase argv
  constructor
  · generalize splitDatabase argv = answer at hsplit ⊢
    cases hsplit with
    | whole hnone =>
        refine ⟨rfl, fun i arg hi hget hbefore => ?_⟩
        by_cases hvalue : IsValue argv i
        · exact .inr hvalue
        · left
          refine Bool.of_not_eq_false fun hflag => hnone i ⟨?_, hbefore⟩
          exact ⟨Nat.ne_of_gt hi, by rw [hget, Option.map_some, hflag], hvalue⟩
    | @first i db hfirst hget =>
        refine ⟨i, ⟨Nat.pos_of_ne_zero hfirst.behind, hget, rfl, hfirst⟩, ?_⟩
        rintro j ⟨-, -, -, hj⟩
        exact hj.unique hfirst
  · intro c hcommand
    generalize splitDatabase argv = answer at hsplit ⊢
    cases hsplit with
    | whole hnone => exact ⟨argv.take c, (List.take_append_drop c argv).symm, .refl _⟩
    | @first i db hfirst hget =>
        -- A command does not stand before the operand that is taken out.
        have hlt : i < c := Nat.lt_of_not_le fun hle => hfirst.before c hle hcommand
        have hlength : i < (argv.take c).length := by
          have := (List.getElem?_eq_some_iff.mp hget).1
          rw [List.length_take]
          omega
        refine ⟨(argv.take c).eraseIdx i, ?_, List.eraseIdx_sublist _ _⟩
        rw [← List.eraseIdx_append_of_lt_length hlength, List.take_append_drop]

/-- The value of a flag may be written like a flag; then the word behind it is an operand. -/
theorem splitDatabase_first_operand_behind_value :
    let argv := ["querypad", "--log-level", "--settings", "x", "y", "query", "z"]
    FirstOperand argv 3 ∧ IsCommand argv 5 ∧
      splitDatabase argv =
        (some "x", ["querypad", "--log-level", "--settings", "y", "query", "z"]) ∧
      ∃ kept, (splitDatabase argv).2 = kept ++ argv.drop 5 ∧ kept.Sublist (argv.take 5) := by
  intro argv
  have hcommand : IsCommand argv 5 := by decide
  exact ⟨by decide, hcommand, rfl, (splitDatabase_first_operand argv).2 5 hcommand⟩

end QueryDesk.CommandLine
