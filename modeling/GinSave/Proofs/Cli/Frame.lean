import GinSave.Proofs.Store.Keeps
import GinSave.Cli.Run

/-! What a run of the command line leaves of the files. Reading the texts, processing the values,
checking paths and showing help only look at the world or print; the store and the working
directory change only through the steps the program adds. So a property of the files and the
working directory that every step of the program keeps, for the commands a run reaches, is kept
by the whole run (`runCommand_keeps`), however it ends: with a value, a usage error, an exit or a
fault (`Program.run_keeps`). A run that reads its texts without error goes from group to command
as its texts name them (`runCommand_group`, `runCommand_leaf`); one whose texts do not read
stops where they fail (`runCommand_leaf_refused`). -/

namespace GinSave.Cli

open GinSave.Store

variable {Q : Volume → List String → Prop}

theorem keeps_act {α : Type} {a : Act α} (kept : Keeps (OnFiles Q) a) :
    Keeps (OnFiles Q) (act a) :=
  Keeps.adaptExcept _ kept

theorem keeps_failUsage {α : Type} (path : String) (c : Command) (message : String) :
    Keeps (OnFiles Q) (failUsage path c message : Run α) :=
  Keeps.throw _

theorem keeps_readOrFail (path : String) (c : Command) (args : List String) :
    Keeps (OnFiles Q) (readOrFail path c args) := by
  unfold readOrFail
  split
  · exact Keeps.pure _
  · exact Keeps.throw _

/-! ### Processing values -/

theorem keeps_checkPath (rule : PathRule) (given : String) :
    Keeps (OnFiles Q) (checkPath rule given) := by
  unfold checkPath
  refine Keeps.bind Keeps.get fun w => ?_
  dsimp only
  split
  · exact Keeps.ite (Keeps.pure _) (Keeps.pure _)
  · -- a path that is there: its kind is checked, then access, each only looked at
    refine Keeps.ite (Keeps.pure _) (Keeps.ite (Keeps.pure _) ?_)
    refine Keeps.bind (keeps_act (keeps_access _ _)) fun _ => Keeps.ite (Keeps.pure _) ?_
    exact Keeps.bind (keeps_act (keeps_access _ _)) fun _ => Keeps.ite (Keeps.pure _) (Keeps.pure _)

theorem keeps_convert (type : ValueType) (given : String) :
    Keeps (OnFiles Q) (convert type given) := by
  unfold convert
  split
  · exact Keeps.pure _
  · exact Keeps.ite (Keeps.pure _) (Keeps.pure _)
  · refine Keeps.bind (keeps_checkPath _ _) fun r => ?_
    split <;> exact Keeps.pure _

theorem keeps_convertAll (path : String) (c : Command) (p : Param) (type : ValueType) :
    ∀ texts, Keeps (OnFiles Q) (convertAll path c p type texts)
  | [] => Keeps.pure _
  | t :: ts => by
    rw [convertAll]
    refine Keeps.bind (keeps_convert type t) fun r => ?_
    cases r with
    | error m => exact keeps_failUsage _ _ _
    | ok v => exact Keeps.bind (keeps_convertAll path c p type ts) fun _ => Keeps.pure _

theorem keeps_processParam (path : String) (c : Command) (r : Reading)
    (taken : List (String × Option (List String))) (p : Param) :
    Keeps (OnFiles Q) (processParam path c r taken p) := by
  unfold processParam
  split
  · split
    case h_1 =>
      -- help was asked for: the page is shown and the run ends
      exact Keeps.bind (keeps_act (keeps_echo _)) fun _ => Keeps.throw _
    case h_7 =>
      refine Keeps.bind (keeps_convertAll _ _ _ _ _) fun vs => ?_
      split <;> exact Keeps.pure _
    all_goals exact Keeps.pure _
  · dsimp only
    split
    · exact Keeps.ite (keeps_failUsage _ _ _) (Keeps.pure _)
    · refine Keeps.ite (Keeps.ite (keeps_failUsage _ _ _) (Keeps.pure _)) ?_
      exact Keeps.bind (keeps_convertAll _ _ _ _ _) fun _ => Keeps.ite (Keeps.pure _) (Keeps.pure _)

/-- Processing a command's values keeps what the step each value sets off keeps. -/
theorem keeps_processAll (path : String) (c : Command) (r : Reading)
    {react : String → ParamValue → Run Unit} (reacts : ∀ dest v, Keeps (OnFiles Q) (react dest v)) :
    Keeps (OnFiles Q) (processAll path c r react) := by
  unfold processAll
  split
  refine Keeps.bind (Keeps.forIn (fun p values => ?_) _ _) fun _ => Keeps.pure _
  refine Keeps.bind (keeps_processParam _ _ _ _ _) fun (dest, v) => ?_
  exact Keeps.bind (reacts dest v) fun _ => Keeps.pure _

/-! ### Whole runs -/

/-- The steps a program adds keep `P` for every command whose names extend `names₀`. -/
structure StepsKeep (P : World → Prop) (prog : Program) (names₀ : List String) : Prop where
  onValue : ∀ names dest v, names₀ <+: names → Keeps P (prog.onValue names dest v)
  atGroup : ∀ names ps follows, names₀ <+: names → Keeps P (prog.atGroup names ps follows)
  body : ∀ names ps, names₀ <+: names → Keeps P (prog.body names ps)

/-- A command reached below `names₀` keeps what the program's steps keep there. By induction on
the levels of groups left: a group hands on to a command whose names extend its own. -/
theorem runCommand_keeps {prog : Program} {names₀ : List String}
    (steps : StepsKeep (OnFiles Q) prog names₀) :
    ∀ fuel names path c args, names₀ <+: names →
      Keeps (OnFiles Q) (runCommand prog fuel names path c args)
  | 0, _, _, _, _, _ => Keeps.pure _
  | fuel + 1, names, path, c, args, below => by
    cases c with
    | leaf name help ps =>
      rw [runCommand]
      refine Keeps.bind (keeps_readOrFail _ _ _) fun r => ?_
      refine Keeps.bind (keeps_processAll _ _ _ fun dest v => steps.onValue names dest v below)
        fun ⟨values, extra⟩ => ?_
      dsimp only
      exact Keeps.ite (Keeps.bind (keeps_failUsage _ _ _) fun _ => steps.body names values below)
        (steps.body names values below)
    | group name help ps subs helpWithoutArgs runsAlone =>
      rw [runCommand]
      refine Keeps.ite (Keeps.bind (keeps_act (keeps_echo _)) fun _ => Keeps.throw_bind _ _) ?_
      refine Keeps.bind (keeps_readOrFail _ _ _) fun r => ?_
      refine Keeps.bind (keeps_processAll _ _ _ fun dest v => steps.onValue names dest v below)
        fun ⟨values, _⟩ => ?_
      dsimp only
      split
      · exact Keeps.ite (steps.atGroup names values false below) (keeps_failUsage _ _ _)
      · split
        · exact keeps_failUsage _ _ _
        · refine Keeps.bind (steps.atGroup names values true below) fun _ => ?_
          exact runCommand_keeps steps fuel _ _ _ _ (below.trans (List.prefix_append _ _))

/-- A run of the program ends with files that satisfy `Q` when its commands do, however they end:
the world they end in is set, and at most a text is printed. -/
theorem Program.run_ends {prog : Program} {args : List String} {w : World}
    (ran : OnFiles Q (endState ((runCommand prog 8 [] prog.rootName prog.root args).run w))) :
    OnFiles Q (endState ((prog.run args).run w)) := by
  simp only [Program.run, EStateM.run_bind, EStateM.run_get]
  split <;> rename_i ended <;> rw [ended] at ran <;> simp only [EStateM.run_bind, EStateM.run_set]
  · exact ran
  · exact ran
  · exact Keeps.bind (keeps_act (keeps_echo _)) (fun _ => Keeps.pure _) _ ran
  · exact Keeps.bind (keeps_act (keeps_echo _)) (fun _ => Keeps.pure _) _ ran
  · exact ran

/-- A run of the program keeps what its commands keep, however they end. -/
theorem Program.run_keeps {prog : Program} {args : List String}
    (commands : Keeps (OnFiles Q) (runCommand prog 8 [] prog.rootName prog.root args)) :
    Keeps (OnFiles Q) (prog.run args) :=
  fun w kept => Program.run_ends (commands w kept)

/-! ### Stages of a run -/

section stages
variable {prog : Program} {fuel : Nat} {names : List String} {path : String} {args : List String}
  {r : Reading} {w w₁ : World} {values : Params} {extra : List String}

/-- A step of the world that ends with a value ends so as a step of a run. -/
theorem act_run_ok {α : Type} {a : Act α} {x : α} (ran : a.run w = .ok x w₁) :
    (act a).run w = .ok x w₁ := by
  simp [act, EStateM.run_adaptExcept, ran]

/-- A group given texts hands on to the command its first text names, after reading its own
options and running its own step. -/
theorem runCommand_group {name help : String} {ps : List Param} {subs : List Command}
    {helpWithoutArgs runsAlone : Bool} {sub : String} {rest : List String} {c : Command}
    (given : args ≠ [])
    (read : (Command.group name help ps subs helpWithoutArgs runsAlone).read args = .ok r)
    (processed : (processAll path (.group name help ps subs helpWithoutArgs runsAlone) ⟨r.given, []⟩
      (prog.onValue names)).run w = .ok (values, extra) w₁)
    (named : r.positional = sub :: rest) (found : subs.find? (·.name == sub) = some c) :
    (runCommand prog (fuel + 1) names path (.group name help ps subs helpWithoutArgs runsAlone) args).run w =
      (prog.atGroup names values true >>= fun _ =>
        runCommand prog fuel (names ++ [sub]) (path ++ " " ++ sub) c rest).run w₁ := by
  have notEmpty : args.isEmpty = false := List.isEmpty_eq_false_iff.mpr given
  rw [runCommand]
  simp only [notEmpty, Bool.false_and, Bool.false_eq_true, if_false, EStateM.run_bind, readOrFail, read,
    EStateM.run_pure, processed, named, found]

/-- A command that runs reads its texts, processes its values and, with no text left over, runs
its body. -/
theorem runCommand_leaf {name help : String} {ps : List Param}
    (read : (Command.leaf name help ps).read args = .ok r)
    (processed : (processAll path (.leaf name help ps) r (prog.onValue names)).run w = .ok (values, []) w₁) :
    (runCommand prog (fuel + 1) names path (.leaf name help ps) args).run w = (prog.body names values).run w₁ := by
  rw [runCommand]
  simp only [EStateM.run_bind, readOrFail, read, EStateM.run_pure, processed, List.isEmpty_nil,
    Bool.not_true, Bool.false_eq_true, if_false]

/-- A command whose texts do not read stops with a usage error, before any step of its own. -/
theorem runCommand_leaf_refused {name help : String} {ps : List Param} {e : UsageError}
    (refused : (Command.leaf name help ps).read args = .error e) :
    (runCommand prog (fuel + 1) names path (.leaf name help ps) args).run w =
      .error (.usage (usageText path (.leaf name help ps) e)) w := by
  rw [runCommand]
  simp only [EStateM.run_bind, readOrFail, refused]
  rfl
end stages

end GinSave.Cli
