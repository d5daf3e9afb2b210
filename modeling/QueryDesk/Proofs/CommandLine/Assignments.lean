import QueryDesk.CommandLine.Invocation

/-!
# Assignments on a command line

A flag with its value is an assignment: the value is the next argument, or it is joined to
the flag.  Reading an assignment puts the value under the flag, whatever stands there, so a
line of assignments is read by putting them one after the other, and the last one counts.

## Main results

* `Assignment.Reads.readFrom`, `readFrom_line` — what reading one assignment does, and a
  line of them.
* `read_of_split` — what a command line of assignments asks for.
-/

namespace QueryDesk.CommandLine

/-- A flag of a grammar with its value, as arguments write them. -/
structure Assignment where
  args : List String
  flag : Flag
  value : Argument

namespace Assignment

/-- The arguments are read as the flag with the value. -/
inductive Reads (g : Grammar) : Assignment → Prop where
  /-- The value is the next argument. -/
  | apart {arg name value : String} {f : Flag} {p : Parameter} {a : Argument}
      (harg : arg ≠ mark) (hflag : g.shape arg = .ok (.flag ⟨f, name, none⟩))
      (hvalue : value ≠ mark) (hword : g.shape value = .ok .word)
      (hparameter : f.parameter = some p) (hread : f.read p value = .ok a) :
      Reads g ⟨[arg, value], f, a⟩
  /-- The value is in the same argument. -/
  | joined {arg name : String} {text : List Char} {f : Flag} {p : Parameter} {a : Argument}
      (harg : arg ≠ mark) (hflag : g.shape arg = .ok (.flag ⟨f, name, some text⟩))
      (hparameter : f.parameter = some p) (hread : f.read p (String.ofList text) = .ok a) :
      Reads g ⟨[arg], f, a⟩

/-- The arguments of some assignments in a row. -/
def line (ss : List Assignment) : List String := ss.flatMap (·.args)

/-- The text that is assigned last to the flag of a name. -/
def last (ss : List Assignment) (name : String) : Option String :=
  (ss.reverse.find? (·.flag.name = name)).bind (·.value.text?)

end Assignment

/-- Reads arguments when something has been read. -/
def Grammar.readFrom (g : Grammar) (args : List String) (r : Reading) : Except Halt Reading := do
  g.readShaped (← g.shapes args) r

/-! ## Reading assignments -/

section Assignments

variable {g : Grammar}

theorem Grammar.shapes_cons {arg : String} {shape : Shape} (harg : arg ≠ mark)
    (hshape : g.shape arg = .ok shape) (rest : List String) :
    g.shapes (arg :: rest) = (g.shapes rest).map ((arg, shape) :: ·) := by
  rw [Grammar.shapes, if_neg harg, hshape]
  cases g.shapes rest <;> rfl

/-- Reading an assignment puts its value under the flag. -/
theorem Assignment.Reads.readFrom {s : Assignment} (h : s.Reads g) (rest : List String)
    (r : Reading) :
    g.readFrom (s.args ++ rest) r =
      g.readFrom rest { r with values := r.values.put s.flag.name s.value } := by
  cases h with
  | apart harg hflag hvalue hword hparameter hread =>
      simp only [Grammar.readFrom, List.cons_append, List.nil_append,
        Grammar.shapes_cons harg hflag, Grammar.shapes_cons hvalue hword]
      cases g.shapes rest with
      | error e => rfl
      | ok shaped =>
          show g.readShaped (_ :: _ :: shaped) r = g.readShaped shaped _
          rw [Grammar.readShaped]
          simp [hparameter, hread]
          rfl
  | joined harg hflag hparameter hread =>
      simp only [Grammar.readFrom, List.cons_append, List.nil_append,
        Grammar.shapes_cons harg hflag]
      cases g.shapes rest with
      | error e => rfl
      | ok shaped =>
          show g.readShaped (_ :: shaped) r = g.readShaped shaped _
          rw [Grammar.readShaped]
          simp [hparameter, hread]
          rfl

/-- Reading assignments in a row puts their values under their flags, one after the other. -/
theorem readFrom_line {ss : List Assignment} (h : ∀ s ∈ ss, s.Reads g) (rest : List String)
    (r : Reading) :
    g.readFrom (Assignment.line ss ++ rest) r =
      g.readFrom rest { r with
        values := ss.foldl (fun m s => m.put s.flag.name s.value) r.values } := by
  induction ss generalizing r with
  | nil => rfl
  | cons s ss ih =>
      obtain ⟨hs, hss⟩ := List.forall_mem_cons.mp h
      rw [Assignment.line, List.flatMap_cons, List.append_assoc, hs.readFrom]
      exact ih hss _

/-- The text under a flag is the one that was assigned last. -/
theorem text?_assigned (ss : List Assignment) (name : String) :
    Reading.text? { values := ss.foldl (fun m s => m.put s.flag.name s.value) [] } name =
      Assignment.last ss name := by
  rw [Reading.text?, OrderedMap.get?_foldl_put, OrderedMap.get?_nil, Option.or_none,
    Assignment.last]
  cases ss.reverse.find? (·.flag.name = name) <;> rfl

end Assignments

theorem readFor_eq_ok {g : Grammar} {args : List String} {r : Reading}
    (hread : g.readFrom args {} = .ok r) (hmissing : g.missing r = []) :
    readFor g args = .ok r := by
  unfold Grammar.readFrom at hread
  cases hshapes : g.shapes args with
  | error e =>
      rw [hshapes] at hread
      cases hread
  | ok shaped =>
      have hshaped : g.readShaped shaped {} = .ok r := by
        simpa [hshapes, bind, Except.bind] using hread
      have hgrammar : g.read args = .ok r := by
        simp [Grammar.read, hshapes, hshaped, hmissing, bind, Except.bind, pure, Except.pure]
      rw [readFor, hgrammar]
      rfl

/-- What is left of a command line when the database is taken out is read as assignments. -/
theorem read_of_split {args : List String} {program : String} {db : Option String}
    {ss : List Assignment} (hreads : ∀ s ∈ ss, s.Reads programGrammar)
    (hsplit : splitDatabase args = (db, program :: Assignment.line ss)) :
    Invocation.read args =
      .ok ⟨Assignment.last ss "--settings", Assignment.last ss "--log-level", .edit db⟩ := by
  have hread := readFrom_line hreads [] {}
  rw [List.append_nil] at hread
  rw [Invocation.read, hsplit]
  simp only [List.tail_cons, readFor_eq_ok hread rfl, bind, Except.bind, commandOf, pure,
    Except.pure, List.append_nil, text?_assigned]

end QueryDesk.CommandLine
