import CompileDriver.Host.Basic

/-!
# Running actions

An action is a function from the host that it finds to a value and the host
that it leaves.  The equations of this module run the parts of an action one
after the other; all of them hold by unfolding.

A discipline says what stretches of an execution may do to a host, on hosts that
have what the discipline needs.  `Governs` is the rule for actions: wherever it
is run, the action does what the discipline allows, and its value is of a certain
kind.  The rule composes along binds, so that it is proved for an action by
following its text.

Two hosts can be alike without being the same, such as a process that has served requests
and one that has just been started.  `Abreast` is the rule for two actions of which each is
run on one of two related hosts: the hosts that they leave are related again, and so are
their values.  It composes in the same way, by the text of both actions at once.
-/

namespace CompileDriver

variable {α β : Type}

namespace Action

@[simp]
theorem bind_apply (action : Action α) (next : α → Action β) (host : Host) :
    (action >>= next) host = next (action host).1 (action host).2 :=
  rfl

@[simp]
theorem pure_apply (value : α) (host : Host) :
    (pure value : Action α) host = (value, host) :=
  rfl

@[simp]
theorem get_apply (host : Host) : (get : Action Host) host = (host, host) :=
  rfl

@[simp]
theorem set_apply (next host : Host) : (set next : Action PUnit) host = (⟨⟩, next) :=
  rfl

@[simp]
theorem modify_apply (change : Host → Host) (host : Host) :
    (modify change : Action PUnit) host = (⟨⟩, change host) :=
  rfl

@[simp]
theorem discard_apply (action : Action α) (host : Host) :
    (discard action : Action PUnit) host = (⟨⟩, (action host).2) :=
  rfl

end Action

/-! ## Disciplines -/

/-- What stretches of an execution may do to a host. -/
structure Discipline where
  /-- What a host has to have. -/
  needs : Host → Prop
  /-- What may become of a host. -/
  allows : Host → Host → Prop
  refl : ∀ host, allows host host
  trans : ∀ {first second third}, allows first second → allows second third → allows first third
  keeps : ∀ {before after}, needs before → allows before after → needs after

namespace Discipline

variable {discipline : Discipline}

/-- On one host the action does what the discipline allows, and yields a value of
a certain kind. -/
def GovernsAt (discipline : Discipline) (host : Host) (action : Action α) (yields : α → Prop) :
    Prop :=
  discipline.allows host (action host).2 ∧ yields (action host).1

/-- On every host that has what the discipline needs the action does what the
discipline allows, and yields a value of a certain kind. -/
def Governs (discipline : Discipline) (action : Action α) (yields : α → Prop) : Prop :=
  ∀ host : Host, discipline.needs host → discipline.GovernsAt host action yields

theorem GovernsAt.value {host : Host} {value : α} {yields : α → Prop} (known : yields value) :
    discipline.GovernsAt host (pure value) yields :=
  ⟨discipline.refl host, known⟩

namespace Governs

theorem bind {action : Action α} {next : α → Action β} {middle : α → Prop} {yields : β → Prop}
    (first : discipline.Governs action middle)
    (rest : ∀ value, middle value → discipline.Governs (next value) yields) :
    discipline.Governs (action >>= next) yields := by
  intro host needed
  obtain ⟨allowed, known⟩ := first host needed
  obtain ⟨more, result⟩ := rest _ known _ (discipline.keeps needed allowed)
  exact ⟨discipline.trans allowed more, result⟩

theorem value {value : α} {yields : α → Prop} (known : yields value) :
    discipline.Governs (pure value : Action α) yields :=
  fun _ _ => .value known

/-- What follows a look at the host need only be right on that host. -/
theorem look {next : Host → Action β} {yields : β → Prop}
    (rest : ∀ host : Host, discipline.needs host → discipline.GovernsAt host (next host) yields) :
    discipline.Governs (get >>= next) yields :=
  rest

/-- A change that the discipline allows on every host. -/
theorem changed {change : Host → Host}
    (allowed : ∀ host, discipline.allows host (change host)) :
    discipline.Governs (modify change : Action PUnit) fun _ => True :=
  fun host _ => ⟨allowed host, trivial⟩

theorem weaken {action : Action α} {strong weak : α → Prop}
    (governs : discipline.Governs action strong) (implies : ∀ value, strong value → weak value) :
    discipline.Governs action weak :=
  fun host needed => ⟨(governs host needed).1, implies _ (governs host needed).2⟩

theorem discarded {action : Action α} {yields : α → Prop}
    (governs : discipline.Governs action yields) :
    discipline.Governs (discard action : Action PUnit) fun _ => True :=
  fun host needed => ⟨(governs host needed).1, trivial⟩

theorem each {list : List α} {action : α → Action PUnit}
    (governs : ∀ value ∈ list, discipline.Governs (action value) fun _ => True) :
    discipline.Governs (list.forM action) fun _ => True := by
  induction list with
  | nil => exact .value trivial
  | cons value rest ih =>
      exact (governs value List.mem_cons_self).bind fun _ _ =>
        ih fun other member => governs other (List.mem_cons_of_mem value member)

/-- What a stricter discipline allows, a laxer one allows too. -/
theorem relax {strict : Discipline} {action : Action α} {yields : α → Prop}
    (governs : strict.Governs action yields)
    (needs : ∀ host, discipline.needs host → strict.needs host)
    (allows : ∀ before after, strict.allows before after → discipline.allows before after) :
    discipline.Governs action yields :=
  fun host needed =>
    ⟨allows _ _ (governs host (needs host needed)).1, (governs host (needs host needed)).2⟩

end Governs

/-- To preserve what holds of a host. -/
def preserving (holds : Host → Prop) : Discipline where
  needs := holds
  allows before after := holds before → holds after
  refl _ := id
  trans start rest := rest ∘ start
  keeps held preserves := preserves held

theorem Governs.preserved {holds : Host → Prop} {action : Action α} {yields : α → Prop}
    (governs : (preserving holds).Governs action yields) {host : Host} (held : holds host) :
    holds (action host).2 :=
  (governs host held).1 held

end Discipline

/-! ## Actions side by side -/

variable {ε γ δ : Type}

/-- Both operations fail with the same error, or both succeed with related values. -/
inductive SameOutcome (values : α → β → Prop) : Except ε α → Except ε β → Prop
  | error (error : ε) : SameOutcome values (.error error) (.error error)
  | ok {one : α} {two : β} (related : values one two) : SameOutcome values (.ok one) (.ok two)

namespace SameOutcome

variable {values : α → β → Prop} {results : γ → δ → Prop} {one : Except ε α} {two : Except ε β}

theorem bind {next : α → Except ε γ} {other : β → Except ε δ} (same : SameOutcome values one two)
    (rest : ∀ value twin, values value twin → SameOutcome results (next value) (other twin)) :
    SameOutcome results (one >>= next) (two >>= other) := by
  cases same with
  | error error => exact .error error
  | ok related => exact rest _ _ related

end SameOutcome

/-- On two hosts the actions lead to related hosts and yield related values. -/
def AbreastAt (related : Host → Host → Prop) (first second : Host) (one : Action α)
    (two : Action β) (yields : α → β → Prop) : Prop :=
  related (one first).2 (two second).2 ∧ yields (one first).1 (two second).1

/-- On related hosts the actions lead to related hosts and yield related values. -/
def Abreast (related : Host → Host → Prop) (one : Action α) (two : Action β)
    (yields : α → β → Prop) : Prop :=
  ∀ first second, related first second → AbreastAt related first second one two yields

namespace Abreast

variable {related : Host → Host → Prop} {one : Action α} {two : Action β}
  {yields : α → β → Prop} {results : γ → δ → Prop}

theorem value {value : α} {twin : β} (known : yields value twin) :
    Abreast related (pure value) (pure twin) yields :=
  fun _ _ alike => ⟨alike, known⟩

theorem bind {next : α → Action γ} {other : β → Action δ} (start : Abreast related one two yields)
    (rest : ∀ value twin, yields value twin → Abreast related (next value) (other twin) results) :
    Abreast related (one >>= next) (two >>= other) results := by
  intro first second alike
  obtain ⟨stillAlike, known⟩ := start first second alike
  exact rest _ _ known _ _ stillAlike

/-- What follows a look at the hosts need only be right on these hosts. -/
theorem look {next : Host → Action γ} {other : Host → Action δ}
    (rest : ∀ first second, related first second →
      AbreastAt related first second (next first) (other second) results) :
    Abreast related (get >>= next) (get >>= other) results :=
  rest

theorem weaken {weak : α → β → Prop} (abreast : Abreast related one two yields)
    (implies : ∀ value twin, yields value twin → weak value twin) :
    Abreast related one two weak :=
  fun first second alike =>
    ⟨(abreast first second alike).1, implies _ _ (abreast first second alike).2⟩

theorem discarded (abreast : Abreast related one two yields) :
    Abreast related (discard one : Action PUnit) (discard two : Action PUnit) fun _ _ => True :=
  fun first second alike => ⟨(abreast first second alike).1, trivial⟩

end Abreast

end CompileDriver
