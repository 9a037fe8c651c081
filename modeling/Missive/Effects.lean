import Mathlib.Order.Defs.Unbundled

/-! Computations over a mutable state that may fail. A failure keeps what was
written before it, unless the computation ran as a transaction. What such a
computation may do to the state is stated as a relation between the state before
and the state after; a relation that is reflexive and transitive passes through
sequencing, loops and transactions. -/
namespace Missive.Effects

variable {State Error Result Other Item : Type}

theorem except_bind_returned {first : Except Error Result} {next : Result → Except Error Other}
    {other : Other} (ran : (first >>= next) = .ok other) :
    ∃ result, first = .ok result ∧ next result = .ok other := by
  cases first with
  | error error => exact absurd ran (by simp [Bind.bind, Except.bind])
  | ok result => exact ⟨result, rfl, ran⟩

theorem except_bind_returns {first : Except Error Result} {next : Result → Except Error Other}
    (starts : ∃ result, first = .ok result)
    (continues : ∀ result, ∃ other, next result = .ok other) :
    ∃ other, (first >>= next) = .ok other := by
  obtain ⟨result, rfl⟩ := starts
  exact continues result

-- A loop over the items reaches a state that holds what came before and every item after it.
theorem except_foldlM_taken {Taken : Type} (holds : List Taken → State → Prop)
    {step : State → Item → Except Error State} (name : Item → Taken)
    (each : ∀ {done before item after}, holds done before → step before item = .ok after →
      holds (done ++ [name item]) after)
    {items : List Item} {done : List Taken} {before after : State} (held : holds done before)
    (ran : items.foldlM step before = .ok after) : holds (done ++ items.map name) after := by
  induction items generalizing done before with
  | nil =>
      cases ran
      simpa using held
  | cons item rest ih =>
      rw [List.foldlM_cons] at ran
      obtain ⟨middle, here, later⟩ := except_bind_returned ran
      simpa using ih (each held here) later

theorem except_foldlM_keeps (holds : State → Prop) {step : State → Item → Except Error State}
    (each : ∀ {before item after}, holds before → step before item = .ok after → holds after)
    {items : List Item} {before after : State} (held : holds before)
    (ran : items.foldlM step before = .ok after) : holds after := by
  induction items generalizing before with
  | nil =>
      cases ran
      exact held
  | cons item rest ih =>
      rw [List.foldlM_cons] at ran
      obtain ⟨middle, here, later⟩ := except_bind_returned ran
      exact ih (each held here) later

theorem except_forM_each {check : Item → Except Error Unit} {items : List Item}
    (passed : items.forM check = .ok ()) : ∀ item ∈ items, check item = .ok () := by
  induction items with
  | nil => simp
  | cons head rest ih =>
      obtain ⟨_, here, later⟩ := except_bind_returned passed
      intro item member
      cases member with
      | head => exact here
      | tail _ member => exact ih later item member

theorem except_mapM_returns {step : Item → Except Error Result} {items : List Item}
    (each : ∀ item ∈ items, ∃ result, step item = .ok result) :
    ∃ results, items.mapM step = .ok results := by
  induction items with
  | nil => exact ⟨[], rfl⟩
  | cons item rest ih =>
      obtain ⟨head, here⟩ := each item List.mem_cons_self
      obtain ⟨tail, later⟩ := ih fun other member => each other (List.mem_cons_of_mem _ member)
      exact ⟨head :: tail, by rw [List.mapM_cons, here]; simp only [later]; rfl⟩

def Effect (State Error Result : Type) : Type := State → Except Error Result × State

namespace Effect

def pure' (result : Result) : Effect State Error Result := fun state => (.ok result, state)

def bind' (first : Effect State Error Result) (next : Result → Effect State Error Other) :
    Effect State Error Other := fun state =>
  match first state with
  | (.ok result, after) => next result after
  | (.error error, after) => (.error error, after)

instance : Monad (Effect State Error) where
  pure := pure'
  bind := bind'

def raise (error : Error) : Effect State Error Result := fun state => (.error error, state)

def lift (result : Except Error Result) : Effect State Error Result := fun state => (result, state)

def get : Effect State Error State := fun state => (.ok state, state)

def modify (change : State → State) : Effect State Error Unit :=
  fun state => (.ok (), change state)

/-- A transaction: a failure takes back what the body did, as far as it can be undone. -/
def transaction (undo : State → State → State) (body : Effect State Error Result) :
    Effect State Error Result := fun state =>
  match body state with
  | (.ok result, after) => (.ok result, after)
  | (.error error, after) => (.error error, undo state after)

/-- A failure becomes a result; what was written before it stays. -/
def attempt (body : Effect State Error Result) : Effect State Error (Except Error Result) :=
  fun state => (.ok (body state).1, (body state).2)

def fold (step : Result → Item → Effect State Error Result) :
    Result → List Item → Effect State Error Result
  | result, [] => Pure.pure result
  | result, item :: rest => step result item >>= fun next => fold step next rest

@[simp] theorem pure_run (result : Result) (state : State) :
    (Pure.pure result : Effect State Error Result) state = (.ok result, state) := rfl

@[simp] theorem raise_run (error : Error) (state : State) :
    (raise error : Effect State Error Result) state = (.error error, state) := rfl

@[simp] theorem lift_run (result : Except Error Result) (state : State) :
    (lift result : Effect State Error Result) state = (result, state) := rfl

@[simp] theorem get_run (state : State) :
    (get : Effect State Error State) state = (.ok state, state) := rfl

@[simp] theorem modify_run (change : State → State) (state : State) :
    (modify change : Effect State Error Unit) state = (.ok (), change state) := rfl

theorem bind_run (first : Effect State Error Result) (next : Result → Effect State Error Other)
    (state : State) :
    (first >>= next) state =
      match first state with
      | (.ok result, after) => next result after
      | (.error error, after) => (.error error, after) := rfl

@[simp] theorem bind_ok (first : Effect State Error Result)
    (next : Result → Effect State Error Other) (state after : State) (result : Result)
    (ran : first state = (.ok result, after)) : (first >>= next) state = next result after := by
  rw [bind_run, ran]

@[simp] theorem bind_error (first : Effect State Error Result)
    (next : Result → Effect State Error Other) (state after : State) (error : Error)
    (ran : first state = (.error error, after)) : (first >>= next) state = (.error error, after) := by
  rw [bind_run, ran]

/-- A sequence returned, so both parts did. -/
theorem bind_returned {first : Effect State Error Result}
    {next : Result → Effect State Error Other} {state after : State} {other : Other}
    (ran : (first >>= next) state = (.ok other, after)) :
    ∃ result middle, first state = (.ok result, middle) ∧ next result middle = (.ok other, after) := by
  rw [bind_run] at ran
  cases shown : first state with
  | mk outcome middle =>
      rw [shown] at ran
      cases outcome with
      | error error => simp at ran
      | ok result => exact ⟨result, middle, rfl, ran⟩

theorem transaction_returned {undo : State → State → State} {body : Effect State Error Result}
    {state after : State} {result : Result}
    (ran : transaction undo body state = (.ok result, after)) : body state = (.ok result, after) := by
  unfold transaction at ran
  split at ran
  · rename_i shown
    rw [shown, ran]
  · cases ran

theorem lift_bind_returned {first : Except Error Result} {next : Result → Effect State Error Other}
    {state after : State} {other : Other} (ran : (lift first >>= next) state = (.ok other, after)) :
    ∃ result, first = .ok result ∧ next result state = (.ok other, after) := by
  obtain ⟨result, middle, lifted, rest⟩ := bind_returned ran
  obtain ⟨shown, same⟩ := Prod.mk.inj lifted
  subst same
  exact ⟨result, shown, rest⟩

/-- Whatever it returns, the computation moves the state along the relation. -/
def Moves (relation : State → State → Prop) (effect : Effect State Error Result) : Prop :=
  ∀ state, relation state (effect state).2

section Rules

variable {relation : State → State → Prop}

theorem moves_pure (refl : ∀ state, relation state state) (result : Result) :
    Moves relation (Pure.pure result : Effect State Error Result) := refl

theorem moves_raise (refl : ∀ state, relation state state) (error : Error) :
    Moves relation (raise error : Effect State Error Result) := refl

theorem moves_lift (refl : ∀ state, relation state state) (result : Except Error Result) :
    Moves relation (lift result : Effect State Error Result) := refl

theorem moves_bind (trans : ∀ a b c, relation a b → relation b c → relation a c)
    {first : Effect State Error Result} {next : Result → Effect State Error Other}
    (head : Moves relation first) (tail : ∀ result, Moves relation (next result)) :
    Moves relation (first >>= next) := by
  intro state
  have before := head state
  rw [bind_run]
  cases shown : first state with
  | mk outcome middle =>
      rw [shown] at before
      cases outcome with
      | error error => exact before
      | ok result => exact trans _ _ _ before (tail result middle)

theorem moves_transaction {undo : State → State → State}
    (undone : ∀ before after, relation before after → relation before (undo before after))
    {body : Effect State Error Result} (inner : Moves relation body) :
    Moves relation (transaction undo body) := by
  intro state
  have moved := inner state
  unfold transaction
  cases shown : body state with
  | mk outcome after =>
      rw [shown] at moved
      cases outcome with
      | error error => exact undone state after moved
      | ok result => exact moved

theorem moves_fold (refl : ∀ state, relation state state)
    (trans : ∀ a b c, relation a b → relation b c → relation a c)
    {step : Result → Item → Effect State Error Result}
    (each : ∀ result item, Moves relation (step result item)) (start : Result)
    (items : List Item) : Moves relation (fold step start items) := by
  induction items generalizing start with
  | nil => exact moves_pure refl start
  | cons item rest ih => exact moves_bind trans (each start item) (fun next => ih next)

end Rules

/-- A condition that holds before the computation holds after it, and what is returned meets
another one. -/
def Maintains (holds : State → Prop) (meets : Result → Prop) (effect : Effect State Error Result) :
    Prop :=
  ∀ state, holds state → holds (effect state).2 ∧
    ∀ result, (effect state).1 = .ok result → meets result

section Invariants

variable {holds : State → Prop} {meets : Result → Prop}

theorem maintains_pure {result : Result} (met : meets result) :
    Maintains holds meets (Pure.pure result : Effect State Error Result) := by
  intro state held
  refine ⟨held, ?_⟩
  rintro _ ⟨⟩
  exact met

theorem maintains_lift {value : Except Error Result} (met : ∀ result, value = .ok result → meets result) :
    Maintains holds meets (lift value) :=
  fun _ held => ⟨held, met⟩

theorem maintains_bind {middle : Other → Prop} {first : Effect State Error Other}
    {next : Other → Effect State Error Result} (head : Maintains holds middle first)
    (tail : ∀ other, middle other → Maintains holds meets (next other)) :
    Maintains holds meets (first >>= next) := by
  intro state held
  obtain ⟨kept, known⟩ := head state held
  rw [bind_run]
  cases shown : first state with
  | mk outcome after =>
      rw [shown] at kept known
      cases outcome with
      | error error =>
          refine ⟨kept, ?_⟩
          rintro _ ⟨⟩
      | ok other => exact tail other (known other rfl) after kept

theorem maintains_fold {step : Result → Item → Effect State Error Result} {items : List Item}
    (each : ∀ result, meets result → ∀ item ∈ items, Maintains holds meets (step result item))
    (start : Result) (met : meets start) : Maintains holds meets (fold step start items) := by
  induction items generalizing start with
  | nil => exact maintains_pure met
  | cons item rest ih =>
      apply maintains_bind (each start met item List.mem_cons_self)
      intro next known
      exact ih (fun result met item member => each result met item (List.mem_cons_of_mem _ member))
        next known

end Invariants

/-! Total correctness: the computation returns, and what it returns meets a condition. -/

def Succeeds (effect : Effect State Error Result) (state : State)
    (meets : Result → State → Prop) : Prop :=
  ∃ result after, effect state = (.ok result, after) ∧ meets result after

section Total

variable {state : State} {meets : Result → State → Prop}

theorem succeeds_pure {result : Result} (met : meets result state) :
    Succeeds (Pure.pure result : Effect State Error Result) state meets :=
  ⟨result, state, rfl, met⟩

theorem succeeds_lift {value : Except Error Result} {result : Result} (known : value = .ok result)
    (met : meets result state) : Succeeds (lift value) state meets :=
  ⟨result, state, by rw [lift_run, known], met⟩

theorem succeeds_bind {first : Effect State Error Other} {next : Other → Effect State Error Result}
    (both : Succeeds first state fun other middle => Succeeds (next other) middle meets) :
    Succeeds (first >>= next) state meets := by
  obtain ⟨other, middle, began, result, after, ended, met⟩ := both
  exact ⟨result, after, (bind_ok _ _ _ _ _ began).trans ended, met⟩

theorem succeeds_lift_bind {value : Except Error Other} {other : Other}
    {next : Other → Effect State Error Result} (known : value = .ok other)
    (rest : Succeeds (next other) state meets) : Succeeds (lift value >>= next) state meets :=
  succeeds_bind (succeeds_lift known rest)

theorem succeeds_mono {effect : Effect State Error Result} {weaker : Result → State → Prop}
    (succeeds : Succeeds effect state meets) (implies : ∀ result after, meets result after → weaker result after) :
    Succeeds effect state weaker := by
  obtain ⟨result, after, ran, met⟩ := succeeds
  exact ⟨result, after, ran, implies result after met⟩

-- What the rules below are told about the state after, with the run that led to it.
theorem succeeds_ran {effect : Effect State Error Result} (succeeds : Succeeds effect state meets) :
    Succeeds effect state fun result after => meets result after ∧ effect state = (.ok result, after) := by
  obtain ⟨result, after, ran, met⟩ := succeeds
  exact ⟨result, after, ran, met, ran⟩

theorem succeeds_transaction {undo : State → State → State} {body : Effect State Error Result}
    (inner : Succeeds body state meets) : Succeeds (transaction undo body) state meets := by
  obtain ⟨result, after, ran, met⟩ := inner
  refine ⟨result, after, ?_, met⟩
  unfold transaction
  rw [ran]

end Total

/-! The computation returns exactly when a condition on the state before it holds. -/

def Decides (effect : Effect State Error Result) (state : State) (condition : Prop)
    (meets : Result → State → Prop) : Prop :=
  (condition ∧ Succeeds effect state meets) ∨
    (¬ condition ∧ ∃ error after, effect state = (.error error, after))

section Decided

variable {state : State} {meets : Result → State → Prop} {condition later : Prop}
  {effect : Effect State Error Result}

theorem Decides.returns_iff (decides : Decides effect state condition meets) :
    Succeeds effect state meets ↔ condition := by
  rcases decides with ⟨holds, succeeds⟩ | ⟨fails, error, after, failed⟩
  · exact ⟨fun _ => holds, fun _ => succeeds⟩
  · refine ⟨?_, fun holds => absurd holds fails⟩
    rintro ⟨result, ended, ran, _⟩
    rw [failed] at ran
    cases ran

theorem decides_returned {result : Result} {after : State}
    (decides : Decides effect state condition meets) (ran : effect state = (.ok result, after)) :
    condition ∧ meets result after := by
  rcases decides with ⟨holds, _, _, returned, met⟩ | ⟨_, error, ended, failed⟩
  · rw [ran] at returned
    cases returned
    exact ⟨holds, met⟩
  · rw [ran] at failed
    cases failed

theorem decides_always (succeeds : Succeeds effect state meets) :
    Decides effect state True meets := Or.inl ⟨trivial, succeeds⟩

theorem decides_mono {weaker : Result → State → Prop} (decides : Decides effect state condition meets)
    (implies : ∀ result after, meets result after → weaker result after) :
    Decides effect state condition weaker := by
  rcases decides with ⟨holds, succeeds⟩ | failed
  · exact Or.inl ⟨holds, succeeds_mono succeeds implies⟩
  · exact Or.inr failed

theorem decides_ran (decides : Decides effect state condition meets) :
    Decides effect state condition fun result after =>
      meets result after ∧ effect state = (.ok result, after) := by
  rcases decides with ⟨holds, succeeds⟩ | failed
  · exact Or.inl ⟨holds, succeeds_ran succeeds⟩
  · exact Or.inr failed

-- Where it returned, the condition held.
theorem decides_holding (decides : Decides effect state condition meets) :
    Decides effect state condition fun result after => meets result after ∧ condition := by
  rcases decides with ⟨holds, succeeds⟩ | failed
  · exact Or.inl ⟨holds, succeeds_mono succeeds fun _ _ met => ⟨met, holds⟩⟩
  · exact Or.inr failed

theorem decides_congr (same : later ↔ condition) (decides : Decides effect state condition meets) :
    Decides effect state later meets := by
  rwa [propext same]

theorem decides_bind {first : Effect State Error Other} {next : Other → Effect State Error Result}
    (both : Decides first state condition fun other middle => Decides (next other) middle later meets) :
    Decides (first >>= next) state (condition ∧ later) meets := by
  rcases both with ⟨holds, other, middle, began, rest⟩ | ⟨fails, error, after, failed⟩
  · rcases rest with ⟨also, succeeds⟩ | ⟨stuck, error, after, failed⟩
    · exact Or.inl ⟨⟨holds, also⟩, succeeds_bind ⟨other, middle, began, succeeds⟩⟩
    · exact Or.inr ⟨fun all => stuck all.2, error, after, (bind_ok _ _ _ _ _ began).trans failed⟩
  · exact Or.inr ⟨fun all => fails all.1, error, after, bind_error _ _ _ _ _ failed⟩

theorem succeeds_decides_bind {first : Effect State Error Other}
    {next : Other → Effect State Error Result}
    (both : Succeeds first state fun other middle => Decides (next other) middle condition meets) :
    Decides (first >>= next) state condition meets :=
  decides_congr ⟨fun holds => ⟨trivial, holds⟩, And.right⟩ (decides_bind (decides_always both))

theorem decides_succeeds_bind {first : Effect State Error Other}
    {next : Other → Effect State Error Result}
    (both : Decides first state condition fun other middle => Succeeds (next other) middle meets) :
    Decides (first >>= next) state condition meets :=
  decides_congr ⟨fun holds => ⟨holds, trivial⟩, And.left⟩
    (decides_bind (decides_mono both fun _ _ => decides_always))

theorem lift_decides_bind {value : Except Error Other} {other : Other}
    {next : Other → Effect State Error Result} (known : value = .ok other)
    (rest : Decides (next other) state condition meets) :
    Decides (lift value >>= next) state condition meets :=
  succeeds_decides_bind (succeeds_lift known rest)

theorem decides_transaction {undo : State → State → State}
    (inner : Decides effect state condition meets) :
    Decides (transaction undo effect) state condition meets := by
  rcases inner with ⟨holds, succeeds⟩ | ⟨fails, error, after, failed⟩
  · exact Or.inl ⟨holds, succeeds_transaction succeeds⟩
  · refine Or.inr ⟨fails, error, undo state after, ?_⟩
    unfold transaction
    rw [failed]

end Decided
/-- Whatever the outcome: what holds after the result, and what holds after a failure. -/
structure After (effect : Effect State Error Result) (state : State) (returned : Result → State → Prop)
    (failed : State → Prop) : Prop where
  ok : ∀ result after, effect state = (.ok result, after) → returned result after
  error : ∀ error after, effect state = (.error error, after) → failed after

section Outcomes

variable {state : State} {returned : Result → State → Prop} {failed : State → Prop}
  {effect : Effect State Error Result}

theorem after_either {holds : State → Prop}
    (outcome : After effect state (fun _ => holds) holds) : holds (effect state).2 := by
  cases shown : effect state with
  | mk result after =>
      cases result with
      | ok result => exact outcome.ok result after shown
      | error error => exact outcome.error error after shown

theorem after_mono {stronger : Result → State → Prop} {worse : State → Prop}
    (outcome : After effect state stronger worse)
    (returns : ∀ result after, stronger result after → returned result after)
    (fails : ∀ after, worse after → failed after) : After effect state returned failed :=
  ⟨fun result after ran => returns result after (outcome.ok result after ran),
    fun error after ran => fails after (outcome.error error after ran)⟩

theorem after_pure {result : Result} (met : returned result state) :
    After (Pure.pure result : Effect State Error Result) state returned failed := by
  constructor
  · intro _ _ ran
    cases ran
    exact met
  · intro _ _ ran
    cases ran

theorem after_lift {value : Except Error Result} (met : ∀ result, value = .ok result → returned result state)
    (unmet : failed state) : After (lift value) state returned failed := by
  constructor
  · intro result _ ran
    obtain ⟨known, rfl⟩ := Prod.mk.inj ran
    exact met result known
  · intro _ _ ran
    obtain ⟨_, rfl⟩ := Prod.mk.inj ran
    exact unmet

theorem after_bind {first : Effect State Error Other} {next : Other → Effect State Error Result}
    (outcome : After first state (fun other middle => After (next other) middle returned failed) failed) :
    After (first >>= next) state returned failed := by
  cases shown : first state with
  | mk result middle =>
      cases result with
      | ok other =>
          have later := outcome.ok other middle shown
          constructor
          · intro result after ran
            rw [bind_ok _ _ _ _ _ shown] at ran
            exact later.ok result after ran
          · intro error after ran
            rw [bind_ok _ _ _ _ _ shown] at ran
            exact later.error error after ran
      | error error =>
          constructor
          · intro result after ran
            rw [bind_error _ _ _ _ _ shown] at ran
            cases ran
          · intro _ after ran
            rw [bind_error _ _ _ _ _ shown] at ran
            cases ran
            exact outcome.error error _ shown

theorem after_lift_bind {value : Except Error Other} {next : Other → Effect State Error Result}
    (rest : ∀ other, value = .ok other → After (next other) state returned failed)
    (unmet : failed state) : After (lift value >>= next) state returned failed :=
  after_bind (after_lift rest unmet)

theorem after_moves {relation : State → State → Prop} (moves : Moves relation effect) (state : State) :
    After effect state (fun _ => relation state) (relation state) := by
  have moved := moves state
  constructor
  · intro _ _ ran
    rwa [ran] at moved
  · intro _ _ ran
    rwa [ran] at moved

/-- A loop, with an invariant over the items it has taken. -/
theorem after_fold {Item : Type} {step : Result → Item → Effect State Error Result}
    (holds : List Item → Result → State → Prop) {items : List Item}
    (one : ∀ taken item rest result state, items = taken ++ item :: rest → holds taken result state →
      After (step result item) state (holds (taken ++ [item])) failed)
    {result : Result} (start : holds [] result state) :
    After (fold step result items) state (holds items) failed := by
  have from_ (rest : List Item) : ∀ taken result state, items = taken ++ rest →
      holds taken result state → After (fold step result rest) state (holds items) failed := by
    induction rest with
    | nil =>
        intro taken result state whole met
        rw [List.append_nil] at whole
        rw [whole]
        exact after_pure met
    | cons item rest ih =>
        intro taken result state whole met
        apply after_bind
        apply after_mono (one taken item rest result state whole met) _ (fun _ => id)
        intro next middle met'
        exact ih (taken ++ [item]) next middle (by rw [whole, List.append_assoc]; rfl) met'
  exact from_ items [] result state rfl start

end Outcomes
end Effect
end Missive.Effects
