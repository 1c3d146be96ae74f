import GinSave.Proofs.Store.Frame

/-! What a step keeps. `Keeps P x` says that from any state where `P` holds, `x` ends in a state
where `P` holds, whether it ends with a value or with an error. It is proved of each step once and
carried through `bind`, `if`, `match` and loops, so a property of a whole program follows from
its steps. Every step of the world keeps the working directory, and the steps that only look or
write to the terminal keep every property of the files. -/

namespace GinSave.Store

/-- The state a step ends in, with a value or with an error. -/
def endState {ε σ α : Type} : EStateM.Result ε σ α → σ
  | .ok _ s => s
  | .error _ s => s

/-- From any state where `P` holds, `x` ends in a state where `P` holds. -/
def Keeps {ε σ α : Type} (P : σ → Prop) (x : EStateM ε σ α) : Prop :=
  ∀ s, P s → P (endState (x.run s))

section keeps

variable {ε σ α β : Type} {P : σ → Prop}

theorem Keeps.pure (a : α) : Keeps P (Pure.pure a : EStateM ε σ α) := fun _ kept => kept

theorem Keeps.throw (e : ε) : Keeps P (MonadExcept.throw e : EStateM ε σ α) := fun _ kept => kept

/-- A step that throws ends there, whatever was to follow. -/
theorem Keeps.throw_bind (e : ε) (f : α → EStateM ε σ β) : Keeps P (MonadExcept.throw e >>= f) :=
  fun _ kept => kept

theorem Keeps.get : Keeps P (MonadState.get : EStateM ε σ σ) := fun _ kept => kept

theorem Keeps.set {s' : σ} (kept : P s') : Keeps P (MonadState.set s' : EStateM ε σ PUnit) :=
  fun _ _ => kept

theorem Keeps.modify {f : σ → σ} (step : ∀ s, P s → P (f s)) :
    Keeps P (modify f : EStateM ε σ PUnit) := fun s kept => step s kept

theorem Keeps.bind {x : EStateM ε σ α} {f : α → EStateM ε σ β} (first : Keeps P x)
    (next : ∀ a, Keeps P (f a)) : Keeps P (x >>= f) := by
  intro s kept
  have afterFirst := first s kept
  rw [EStateM.run_bind]
  cases ran : x.run s with
  | ok a s' =>
    rw [ran] at afterFirst
    exact next a s' afterFirst
  | error e s' =>
    rw [ran] at afterFirst
    exact afterFirst

theorem Keeps.ite {c : Prop} [Decidable c] {x y : EStateM ε σ α} (yes : Keeps P x)
    (no : Keeps P y) : Keeps P (if c then x else y) := by
  split
  · exact yes
  · exact no

theorem Keeps.adaptExcept {ε' : Type} (f : ε → ε') {x : EStateM ε σ α} (kept : Keeps P x) :
    Keeps P (EStateM.adaptExcept f x) := by
  intro s start
  have after := kept s start
  rw [EStateM.run_adaptExcept]
  cases ran : x.run s <;> rw [ran] at after <;> exact after

/-- A step of two that ends with a value: the first ended with a value, and the second went on
from there. -/
theorem run_bind_ok {x : EStateM ε σ α} {f : α → EStateM ε σ β} {s s' : σ} {b : β}
    (ran : (x >>= f).run s = .ok b s') : ∃ a s₁, x.run s = .ok a s₁ ∧ (f a).run s₁ = .ok b s' := by
  rw [EStateM.run_bind] at ran
  cases first : x.run s with
  | ok a s₁ =>
    rw [first] at ran
    exact ⟨a, s₁, rfl, ran⟩
  | error e s₁ =>
    rw [first] at ran
    cases ran

/-- A step that keeps `P` and ends with a value ends in a state where `P` holds. -/
theorem Keeps.of_run_ok {x : EStateM ε σ α} (kept : Keeps P x) {s s' : σ} {a : α} (start : P s)
    (ran : x.run s = .ok a s') : P s' := by
  have after := kept s start
  rw [ran] at after
  exact after

/-- A loop over a list keeps what each of its steps keeps. By induction on the list. -/
theorem Keeps.forIn {γ : Type} {f : γ → β → EStateM ε σ (ForInStep β)}
    (step : ∀ x b, Keeps P (f x b)) : ∀ (xs : List γ) (b : β), Keeps P (forIn xs b f)
  | [], _ => Keeps.pure _
  | x :: xs, b => by
    rw [List.forIn_cons]
    refine Keeps.bind (step x b) fun r => ?_
    cases r with
    | done b => exact Keeps.pure _
    | yield b => exact Keeps.forIn step xs b

end keeps

/-! ### Steps of the world -/

/-- A property of the files and the working directory, read off a world. -/
def OnFiles (Q : Volume → List String → Prop) (w : World) : Prop :=
  Q w.store w.cwd

section world

variable {Q : Volume → List String → Prop}

theorem keeps_echo (text : String) : Keeps (OnFiles Q) (echo text) :=
  Keeps.modify fun _ kept => kept

theorem keeps_say (msg : String) : Keeps (OnFiles Q) (say msg) := by
  unfold say
  split
  · exact keeps_echo _
  · exact Keeps.throw _

theorem keeps_orFault {α : Type} (r : Except Fault α) : Keeps (OnFiles Q) (orFault r) := by
  intro w kept
  rw [orFault_run]
  cases r <;> exact kept

theorem keeps_readFile (p : FsPath) : Keeps (OnFiles Q) (readFile p) := by
  intro w kept
  rw [readFile_run]
  split <;> exact kept

theorem keeps_access (p : FsPath) (bit : Nat) : Keeps (OnFiles Q) (access p bit) := by
  unfold access
  refine Keeps.bind Keeps.get fun w => ?_
  split <;> exact Keeps.pure _

theorem keeps_exists? (p : FsPath) : Keeps (OnFiles Q) (exists? p) := by
  intro w kept
  rw [exists?_run]
  split
  · exact kept
  · split <;> exact kept

/-- Each step of the world that writes keeps the working directory. -/
theorem keeps_cwd_writeFile (c : List String) (p : FsPath) (bytes : ByteArray) :
    Keeps (OnFiles fun _ cwd => cwd = c) (writeFile p bytes) := by
  intro w kept
  rw [writeFile_run]
  split <;> exact kept

theorem keeps_cwd_mkdir (c : List String) (p : FsPath) (mode : Nat) (parents existOk : Bool) :
    Keeps (OnFiles fun _ cwd => cwd = c) (mkdir p mode parents existOk) := by
  intro w kept
  rw [mkdir_run]
  split <;> exact kept

end world

end GinSave.Store
