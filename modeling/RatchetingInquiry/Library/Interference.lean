import Mathlib.Logic.Relation
import RatchetingInquiry.Library.Clients

/-! Clients that share a world. Each makes its operations one at a time, and between any two of them the others make
any number of theirs. A client is specified by the step that its operations make and by what it ends with, both under
the interference of such steps. Clients that all meet their specifications move the world by that step, in whatever
order they take their turns. -/

namespace RatchetingInquiry

namespace Client

variable {σ ε α β : Type}

/-- From a world with the precondition, and whatever steps come between, every operation of the client makes steps and
the client ends with the postcondition. -/
def Keeps (step : σ → σ → Prop) (post : Except ε α → σ → Prop) : Client σ ε α → (σ → Prop) → Prop
  | .done outcome, pre => ∀ world, pre world → post outcome world
  | .operate effect rest, pre => ∀ world, pre world → Relation.ReflTransGen step world (effect world) ∧
      (rest world).Keeps step post (fun later => Relation.ReflTransGen step (effect world) later)

/-- A fact about the world that no step takes away. -/
def Stable (step : σ → σ → Prop) (fact : σ → Prop) : Prop :=
  ∀ world next, step world next → fact world → fact next

theorem Stable.run {step : σ → σ → Prop} {fact : σ → Prop} {world later : σ} (stays : Stable step fact)
    (run : Relation.ReflTransGen step world later) (holds : fact world) : fact later := by
  induction run with
  | refl => exact holds
  | tail _ step ih => exact stays _ _ step ih

theorem Stable.and {step : σ → σ → Prop} {first second : σ → Prop} (left : Stable step first)
    (right : Stable step second) : Stable step (fun world => first world ∧ second world) :=
  fun world next step holds => ⟨left world next step holds.1, right world next step holds.2⟩

section
variable {step : σ → σ → Prop} {post wider : Except ε α → σ → Prop} {pre narrower : σ → Prop} {client : Client σ ε α}

theorem Keeps.weaken (keeps : client.Keeps step post pre) (narrows : ∀ world, narrower world → pre world)
    (widens : ∀ outcome world, post outcome world → wider outcome world) : client.Keeps step wider narrower := by
  induction client generalizing pre narrower with
  | done outcome =>
    intro world given
    exact widens _ _ (keeps world (narrows world given))
  | operate effect rest ih =>
    intro world given
    obtain ⟨moves, later⟩ := keeps world (narrows world given)
    exact ⟨moves, ih world later (fun _ reached => reached)⟩

theorem Keeps.under (keeps : client.Keeps step post pre) (narrows : ∀ world, narrower world → pre world) :
    client.Keeps step post narrower :=
  keeps.weaken narrows (fun _ _ holds => holds)

/-- Postconditions that a client meets one by one it meets together. -/
theorem Keeps.all {ι : Type} {posts : ι → Except ε α → σ → Prop} (moves : client.Keeps step (fun _ _ => True) pre)
    (each : ∀ index, client.Keeps step (posts index) pre) :
    client.Keeps step (fun outcome world => ∀ index, posts index outcome world) pre := by
  induction client generalizing pre with
  | done outcome => exact fun world given index => each index world given
  | operate effect rest ih =>
    intro world given
    exact ⟨(moves world given).1, ih world (moves world given).2 (fun index => (each index world given).2)⟩

theorem keeps_pure {value : α} (holds : ∀ world, pre world → post (.ok value) world) :
    (pure value : Client σ ε α).Keeps step post pre := holds

theorem keeps_lift {outcome : Except ε α} (holds : ∀ world, pre world → post outcome world) :
    (lift outcome : Client σ ε α).Keeps step post pre := holds

/-- What a client observes it knows of the world that it looked at, and later steps come behind it. -/
theorem keeps_observe {look : σ → Except ε α} (holds : ∀ world, pre world → ∀ later,
      Relation.ReflTransGen step world later → post (look world) later) :
    (observe look).Keeps step post pre := by
  intro world given
  exact ⟨.refl, fun later reached => holds world given later reached⟩

theorem keeps_update {act : σ → Except ε α × σ}
    (moves : ∀ world, pre world → Relation.ReflTransGen step world (act world).2)
    (holds : ∀ world, pre world → ∀ later, Relation.ReflTransGen step (act world).2 later → post (act world).1 later) :
    (update act).Keeps step post pre := by
  intro world given
  exact ⟨moves world given, fun later reached => holds world given later reached⟩

/-- A client that goes on starts from what the first part ends with, or fails as it does. -/
theorem keeps_bind {first : Client σ ε α} {next : α → Client σ ε β} {last : Except ε β → σ → Prop}
    (middle : α → σ → Prop)
    (earlier : first.Keeps step (fun outcome world =>
      (∀ value, outcome = .ok value → middle value world) ∧
        ∀ failure, outcome = .error failure → last (.error failure) world) pre)
    (later : ∀ value, (next value).Keeps step last (middle value)) : (first >>= next).Keeps step last pre := by
  induction first generalizing pre with
  | done outcome =>
    cases outcome with
    | ok value => exact (later value).under (fun world given => (earlier world given).1 value rfl)
    | error failure => exact fun world given => (earlier world given).2 failure rfl
  | operate effect rest ih =>
    intro world given
    obtain ⟨moves, goesOn⟩ := earlier world given
    exact ⟨moves, ih world goesOn⟩

end

/-! Postconditions that ask something of a returned value, and a value where it is sure that there is one. -/

/-- What holds of the value, if one is returned; and one is, if it is sure. -/
def Ends (sure : Prop) (holds : α → σ → Prop) (outcome : Except ε α) (world : σ) : Prop :=
  (∀ value, outcome = .ok value → holds value world) ∧ (sure → ∃ value, outcome = .ok value)

section
variable {step : σ → σ → Prop} {pre : σ → Prop} {holds : α → σ → Prop} {sure : Prop}

theorem ends_pure {value : α} (given : ∀ world, pre world → holds value world) :
    (pure value : Client σ ε α).Keeps step (Ends sure holds) pre := by
  apply keeps_pure
  intro world begun
  refine ⟨?_, fun _ => ⟨value, rfl⟩⟩
  intro returned same
  rw [← Except.ok.inj same]
  exact given world begun

theorem ends_lift {outcome : Except ε α} (given : ∀ value, outcome = .ok value → ∀ world, pre world → holds value world)
    (returns : sure → ∃ value, outcome = .ok value) : (lift outcome : Client σ ε α).Keeps step (Ends sure holds) pre :=
  keeps_lift (fun world begun => ⟨fun value same => given value same world begun, returns⟩)

theorem ends_observe {look : σ → Except ε α} (stays : ∀ value, Stable step (holds value))
    (given : ∀ world, pre world → ∀ value, look world = .ok value → holds value world)
    (returns : sure → ∀ world, pre world → ∃ value, look world = .ok value) :
    (observe look).Keeps step (Ends sure holds) pre := by
  apply keeps_observe
  intro world begun later reached
  exact ⟨fun value found => (stays value).run reached (given world begun value found),
    fun settled => returns settled world begun⟩

theorem ends_bind {first : Client σ ε α} {next : α → Client σ ε β} {last : β → σ → Prop} (middle : α → σ → Prop)
    (earlier : first.Keeps step (Ends sure middle) pre)
    (later : ∀ value, (next value).Keeps step (Ends sure last) (middle value)) :
    (first >>= next).Keeps step (Ends sure last) pre := by
  apply keeps_bind middle _ later
  apply earlier.weaken (fun _ begun => begun)
  intro outcome world ended
  refine ⟨ended.1, ?_⟩
  intro failure same
  refine ⟨(fun _ returned => nomatch returned), ?_⟩
  intro settled
  obtain ⟨value, returned⟩ := ended.2 settled
  rw [same] at returned
  cases returned

end

/-! What a client may return while the others do whatever they do to the world. -/

/-- In some worlds, one for each operation, the client returns the value. -/
def CanReturn : Client σ ε α → α → Prop
  | .done (.ok returned), value => returned = value
  | .done (.error _), _ => False
  | .operate _ rest, value => ∃ world, (rest world).CanReturn value

/-- The client returns one value at most, whatever it finds. -/
def Determined (client : Client σ ε α) : Prop :=
  ∀ first second, client.CanReturn first → client.CanReturn second → first = second

section
variable {client : Client σ ε α} {value : α}

@[simp] theorem canReturn_lift {outcome : Except ε α} :
    (lift outcome : Client σ ε α).CanReturn value ↔ outcome = .ok value := by
  cases outcome with
  | ok returned => simp [lift, CanReturn]
  | error failure => simp [lift, CanReturn]

@[simp] theorem canReturn_pure {returned : α} : (pure returned : Client σ ε α).CanReturn value ↔ returned = value :=
  .rfl

@[simp] theorem canReturn_observe {look : σ → Except ε α} :
    (observe look).CanReturn value ↔ ∃ world, look world = .ok value :=
  exists_congr fun _ => canReturn_lift

@[simp] theorem canReturn_update {act : σ → Except ε α × σ} :
    (update act).CanReturn value ↔ ∃ world, (act world).1 = .ok value :=
  exists_congr fun _ => canReturn_lift

@[simp] theorem canReturn_bind {first : Client σ ε α} {next : α → Client σ ε β} {result : β} :
    (first >>= next).CanReturn result ↔ ∃ value, first.CanReturn value ∧ (next value).CanReturn result := by
  induction first with
  | done outcome =>
    cases outcome with
    | ok value =>
      change (next value).CanReturn result ↔ _
      simp [CanReturn]
    | error failure =>
      change False ↔ ∃ value, False ∧ _
      simp
  | operate effect rest ih =>
    change (∃ world, (rest world >>= next).CanReturn result) ↔ ∃ value, (∃ world, (rest world).CanReturn value) ∧ _
    simp only [ih]
    constructor
    · intro returned
      obtain ⟨world, value, first, second⟩ := returned
      exact ⟨value, ⟨world, first⟩, second⟩
    · intro returned
      obtain ⟨value, ⟨world, first⟩, second⟩ := returned
      exact ⟨world, value, first, second⟩

theorem determined_lift {outcome : Except ε α} : (lift outcome : Client σ ε α).Determined := by
  intro first second left right
  exact Except.ok.inj ((canReturn_lift.mp left).symm.trans (canReturn_lift.mp right))

theorem determined_bind {first : Client σ ε α} {next : α → Client σ ε β} (earlier : first.Determined)
    (later : ∀ value, (next value).Determined) : (first >>= next).Determined := by
  intro left right leftReturned rightReturned
  obtain ⟨value, returned, leftRest⟩ := canReturn_bind.mp leftReturned
  obtain ⟨other, otherReturned, rightRest⟩ := canReturn_bind.mp rightReturned
  rw [earlier other value otherReturned returned] at rightRest
  exact later value left right leftRest rightRest

variable {step : σ → σ → Prop} {post : Except ε α → σ → Prop} {pre : σ → Prop}

/-- Nothing is asked of a client that is never reached. -/
theorem keeps_unreached (unreached : ∀ world, ¬ pre world) : client.Keeps step post pre := by
  cases client with
  | done outcome => exact fun world given => absurd given (unreached world)
  | operate effect rest => exact fun world given => absurd given (unreached world)

/-- A client that returns ends with a value that it can return. -/
theorem Keeps.returning (keeps : client.Keeps step post pre) :
    client.Keeps step (fun outcome world => post outcome world ∧ ∀ value, outcome = .ok value → client.CanReturn value)
      pre := by
  induction client generalizing pre with
  | done outcome =>
    intro world given
    refine ⟨keeps world given, ?_⟩
    intro value same
    rw [same]
    exact rfl
  | operate effect rest ih =>
    intro world given
    obtain ⟨moves, later⟩ := keeps world given
    refine ⟨moves, ?_⟩
    apply (ih world later).weaken (fun _ reached => reached)
    intro outcome moved holds
    exact ⟨holds.1, fun value same => ⟨world, holds.2 value same⟩⟩

/-- A first part that returns one value only hands on what holds beside it. -/
theorem ends_bind_only {sure : Prop} {first : Client σ ε α} {next : α → Client σ ε β} {last : β → σ → Prop}
    {middle : σ → Prop} (only : α)
    (earlier : first.Keeps step (Ends sure (fun value world => value = only ∧ middle world)) pre)
    (later : (next only).Keeps step (Ends sure last) middle) : (first >>= next).Keeps step (Ends sure last) pre := by
  apply ends_bind _ earlier
  intro value
  by_cases same : value = only
  · rw [same]
    exact later.under (fun _ given => given.2)
  · exact keeps_unreached (fun _ given => same given.1)

/-- A first part that keeps a fact hands it on, with a value that it can return. -/
theorem keeps_after {first : Client σ ε α} {next : α → Client σ ε β} {last : Except ε β → σ → Prop}
    (earlier : first.Keeps step (fun _ world => pre world) pre)
    (fails : ∀ failure world, pre world → last (.error failure) world)
    (later : ∀ value, first.CanReturn value → (next value).Keeps step last pre) :
    (first >>= next).Keeps step last pre := by
  apply keeps_bind (fun value world => pre world ∧ first.CanReturn value)
  · apply earlier.returning.weaken (fun _ given => given)
    intro outcome world holds
    exact ⟨fun value same => ⟨holds.1, holds.2 value same⟩, fun failure _ => fails failure world holds.1⟩
  · intro value
    by_cases possible : first.CanReturn value
    · exact (later value possible).under (fun _ given => given.1)
    · exact keeps_unreached (fun _ given => possible given.2)

end

/-! Turns of the clients of one world. -/

/-- One of the clients makes its next operation. -/
inductive Turn : σ × List (Client σ ε α) → σ × List (Client σ ε α) → Prop
  | operation (world : σ) (before after : List (Client σ ε α)) (effect : σ → σ) (rest : σ → Client σ ε α) :
      Turn (world, before ++ .operate effect rest :: after) (effect world, before ++ rest world :: after)

/-- The client at the place makes its next operation, if it has one. -/
def turnOf (system : σ × List (Client σ ε α)) (place : Nat) : σ × List (Client σ ε α) :=
  match system.2[place]? with
  | some (.operate effect rest) => (effect system.1, system.2.set place (rest system.1))
  | _ => system

/-- What a client ended with. -/
def outcome? : Client σ ε α → Option (Except ε α)
  | .done outcome => some outcome
  | .operate _ _ => none

theorem turnOf_turns (system : σ × List (Client σ ε α)) (place : Nat) :
    Relation.ReflTransGen Turn system (turnOf system place) := by
  unfold turnOf
  split
  next effect rest listed =>
    obtain ⟨world, clients⟩ := system
    obtain ⟨within, same⟩ := List.getElem?_eq_some_iff.mp listed
    apply Relation.ReflTransGen.single
    have before := List.set_eq_take_append_cons_drop (l := clients) (i := place) (a := rest world)
    rw [if_pos within] at before
    have whole := List.take_append_drop place clients
    rw [List.drop_eq_getElem_cons within, same] at whole
    simp only [before]
    conv =>
      lhs
      rw [← whole]
    exact .operation world (clients.take place) (clients.drop (place + 1)) effect rest
  next => exact .refl

theorem turnsOf_turns (system : σ × List (Client σ ε α)) (places : List Nat) :
    Relation.ReflTransGen Turn system (places.foldl turnOf system) := by
  induction places generalizing system with
  | nil => exact .refl
  | cons place rest ih => exact (turnOf_turns system place).trans (ih (turnOf system place))

/-- A client can make its operations one after another while the others wait. -/
theorem finishes (client : Client σ ε α) (world : σ) (before after : List (Client σ ε α)) :
    Relation.ReflTransGen Turn (world, before ++ client :: after)
      ((client.run world).2, before ++ done (client.run world).1 :: after) := by
  induction client generalizing world with
  | done outcome => exact .refl
  | operate effect rest ih =>
    exact (Relation.ReflTransGen.single (.operation world before after effect rest)).trans (ih world (effect world))

/-- Each client meets its specification from wherever the others may have taken the world. -/
def Specified (step : σ → σ → Prop) (world : σ) (posts : List (Except ε α → σ → Prop))
    (clients : List (Client σ ε α)) : Prop :=
  List.Forall₂ (fun post client => client.Keeps step post (Relation.ReflTransGen step world)) posts clients

section
variable {step : σ → σ → Prop} {world moved : σ} {clients rest : List (Client σ ε α)}
  {posts : List (Except ε α → σ → Prop)}

theorem Specified.from_later (specified : Specified step world posts clients)
    (reached : Relation.ReflTransGen step world moved) : Specified step moved posts clients :=
  specified.imp fun _ _ keeps => keeps.under fun _ behind => reached.trans behind

theorem Specified.turn (specified : Specified step world posts clients) (turn : Turn (world, clients) (moved, rest)) :
    Relation.ReflTransGen step world moved ∧ Specified step moved posts rest := by
  cases turn with
  | operation _ before after effect goesOn =>
    have earlier := List.forall₂_take_append _ _ _ specified
    have others := List.forall₂_drop_append _ _ _ specified
    rw [← List.take_append_drop before.length posts]
    generalize List.drop before.length posts = others_posts at others ⊢
    cases others with
    | cons keeps behind =>
      obtain ⟨moves, continues⟩ := keeps world .refl
      exact ⟨moves, List.rel_append (Specified.from_later earlier moves)
        (.cons continues (Specified.from_later behind moves))⟩

/-- However the clients take their turns, the world moves by the step and every client still meets its specification. -/
theorem Specified.turns (specified : Specified step world posts clients)
    (run : Relation.ReflTransGen Turn (world, clients) (moved, rest)) :
    Relation.ReflTransGen step world moved ∧ Specified step moved posts rest := by
  generalize reached : (moved, rest) = system at run
  induction run generalizing moved rest with
  | refl =>
    obtain ⟨rfl, rfl⟩ := Prod.mk.inj reached
    exact ⟨.refl, specified⟩
  | @tail middle _ _ last ih =>
    obtain ⟨between, remaining⟩ := middle
    obtain ⟨moves, still⟩ := ih rfl
    rw [← reached] at last
    obtain ⟨further, ends⟩ := still.turn last
    exact ⟨moves.trans further, ends⟩

/-- A client that has ended has ended with its postcondition. -/
theorem Specified.ended (specified : Specified step world posts clients) {outcome : Except ε α} {place : Nat}
    (ended : clients[place]? = some (.done outcome)) : ∃ post, posts[place]? = some post ∧ post outcome world := by
  induction specified generalizing place with
  | nil => simp at ended
  | @cons post client _ _ keeps _ ih =>
    cases place with
    | zero =>
      obtain rfl : client = .done outcome := by simpa using ended
      exact ⟨post, rfl, keeps world .refl⟩
    | succ place => exact ih (by simpa using ended)

end

end Client

end RatchetingInquiry
