import BoundSql.Registry
import Mathlib.Logic.Function.Basic

/-!
# Calls of a registry

What the calls of a registry do with its open connections. All that matters of a connection is its
serial number, so that a registry is seen as the numbers of its open connections (`serial?`): a call
either keeps them, or gives a new number to a name that had none, or takes away the number of a name
(`Call.Changes`).

* `connects`: the four ways in which a connection is asked for;
* `Call.changes`: what a call does to the numbers.
-/

namespace BoundSql.Registry

variable {ω σ : Type}

/-- The serial number of the open connection under a name. -/
def serial? (r : Registry ω σ) (name : String) : Option Nat :=
  (r.live.get? name).map Live.serial

theorem isConnected_iff {r : Registry ω σ} {name : String} :
    r.isConnected name = true ↔ (r.serial? name).isSome := by
  rw [serial?, Option.isSome_map]
  rfl

/-! ## Asking for a connection -/

/-- How asking for a connection ends: its result and the registry after it. -/
inductive Connects (r : Registry ω σ) (name : String) :
    Except Error (Live σ) → Registry ω σ → Prop where
  | cached {live : Live σ} (h : r.live.get? name = some live) : Connects r name (.ok live) r
  | unknown (h : r.live.get? name = none) (hc : r.catalog.get? name = none) :
    Connects r name (.error (.unknownConnection name)) r
  | refused {entry : Entry} {e : Error} {world : ω} (h : r.live.get? name = none)
    (hc : r.catalog.get? name = some entry)
    (ho : (r.connector name entry).apply r.world = (.error e, world)) :
    Connects r name (.error (.withContext ("Failed to open connection '" ++ name ++ "'") e))
      { r with world }
  | opened {entry : Entry} {state : σ} {world : ω} (h : r.live.get? name = none)
    (hc : r.catalog.get? name = some entry)
    (ho : (r.connector name entry).apply r.world = (.ok state, world)) :
    Connects r name (.ok ⟨r.opened, state⟩)
      { r with
        world
        live := r.live.insert name ⟨r.opened, state⟩
        opened := r.opened + 1 }

theorem apply_connect (r : Registry ω σ) (name : String) (entry : Entry) :
    (connect name entry).apply r =
      (((r.connector name entry).apply r.world).1.mapError
          (.withContext ("Failed to open connection '" ++ name ++ "'")),
        { r with world := ((r.connector name entry).apply r.world).2 }) :=
  rfl

theorem connects (r : Registry ω σ) (name : String) :
    Connects r name ((connection name).apply r).1 ((connection name).apply r).2 := by
  rw [connection, Act.apply_bind_of_ok (Act.apply_get r)]
  cases h : r.live.get? name with
  | some live => exact .cached h
  | none =>
    cases hc : r.catalog.get? name with
    | none => exact .unknown h hc
    | some entry =>
      obtain ⟨result, world, ho⟩ : ∃ result world,
        (r.connector name entry).apply r.world = (result, world) := ⟨_, _, rfl⟩
      have happ := apply_connect r name entry
      rw [ho] at happ
      cases result with
      | error e =>
        dsimp only
        rw [Act.apply_bind_of_error happ]
        exact .refused h hc ho
      | ok state =>
        dsimp only
        rw [Act.apply_bind_of_ok happ]
        exact .opened h hc ho

theorem exists_connects (r : Registry ω σ) (name : String) :
    ∃ result r', (connection name).apply r = (result, r') ∧ Connects r name result r' :=
  ⟨_, _, rfl, connects r name⟩

theorem Connects.catalog {r r' : Registry ω σ} {name : String} {result : Except Error (Live σ)}
    (h : Connects r name result r') : r'.catalog = r.catalog := by
  cases h <;> rfl

theorem Connects.connector {r r' : Registry ω σ} {name : String}
    {result : Except Error (Live σ)} (h : Connects r name result r') :
    r'.connector = r.connector := by
  cases h <;> rfl

/-- The connection that asking for a name gives. -/
def handle? (r : Registry ω σ) (name : String) : Option (Live σ) :=
  ((connection name).apply r).1.toOption

theorem serial?_insert (r : Registry ω σ) (name : String) (live : Live σ) (world : ω)
    (opened : Nat) :
    ({ r with world, live := r.live.insert name live, opened } : Registry ω σ).serial? =
      Function.update r.serial? name (some live.serial) := by
  funext other
  rw [serial?, OrderedMap.get?_insert, Function.update_apply]
  by_cases h : name = other
  · rw [if_pos h, if_pos h.symm, Option.map_some]
  · rw [if_neg h, if_neg (Ne.symm h), serial?]

/-- A name has the number of the connection that asking for it gives, and no other name is
affected. -/
theorem serial?_connection (r : Registry ω σ) (name : String) :
    ((connection name).apply r).2.serial? =
      Function.update r.serial? name ((r.handle? name).map Live.serial) := by
  obtain ⟨result, r', happ, hc⟩ := exists_connects r name
  rw [handle?, happ]
  cases hc with
  | cached h =>
    refine (Function.update_eq_self_iff.2 ?_).symm
    rw [serial?, h]
    rfl
  | unknown h _ =>
    refine (Function.update_eq_self_iff.2 ?_).symm
    rw [serial?, h]
    rfl
  | refused h _ _ =>
    refine (Function.update_eq_self_iff.2 ?_).symm
    rw [serial?, h]
    rfl
  | opened h _ _ => exact serial?_insert r name _ _ _

/-- The connection that is given has the number that the name had, or the next one. -/
theorem serial_of_handle? {r : Registry ω σ} {name : String} {live : Live σ}
    (h : r.handle? name = some live) :
    (r.serial? name = some live.serial ∧ ((connection name).apply r).2.opened = r.opened) ∨
      (r.serial? name = none ∧ live.serial = r.opened ∧
        ((connection name).apply r).2.opened = r.opened + 1 ∧ r.catalog.contains name = true) := by
  obtain ⟨result, r', happ, hc⟩ := exists_connects r name
  rw [handle?, happ] at h
  rw [happ]
  cases hc with
  | cached hl =>
    cases h
    exact .inl ⟨by rw [serial?, hl]; rfl, rfl⟩
  | unknown _ _ => cases h
  | refused _ _ _ => cases h
  | opened hl hcat _ =>
    cases h
    exact .inr ⟨by rw [serial?, hl]; rfl, rfl, rfl, by rw [OrderedMap.contains, hcat]; rfl⟩

/-- Without a connection the registry keeps its numbers. -/
theorem of_handle?_eq_none {r : Registry ω σ} {name : String} (h : r.handle? name = none) :
    r.serial? name = none ∧ ((connection name).apply r).2.opened = r.opened := by
  obtain ⟨result, r', happ, hc⟩ := exists_connects r name
  rw [handle?, happ] at h
  rw [happ]
  cases hc with
  | cached _ => cases h
  | unknown hl _ => exact ⟨by rw [serial?, hl]; rfl, rfl⟩
  | refused hl _ _ => exact ⟨by rw [serial?, hl]; rfl, rfl⟩
  | opened _ _ _ => cases h

/-! ## Calls -/

/-- The second registry has the same connections as the first one, whose states may have changed. -/
structure Like (r r' : Registry ω σ) : Prop where
  catalog : r'.catalog = r.catalog
  connector : r'.connector = r.connector
  world : r'.world = r.world
  serial? : r'.serial? = r.serial?
  opened : r'.opened = r.opened

theorem Like.refl (r : Registry ω σ) : Like r r :=
  ⟨rfl, rfl, rfl, rfl, rfl⟩

/-- The connection that is given is then open. -/
theorem get?_connection {r r' : Registry ω σ} {name : String} {live : Live σ}
    (h : (connection name).apply r = (.ok live, r')) : r'.live.get? name = some live := by
  have hc := connects r name
  rw [h] at hc
  cases hc with
  | cached hl => exact hl
  | opened _ _ _ =>
    rw [OrderedMap.get?_insert]
    exact if_pos rfl

theorem within_of_error {α : Type} {r r' : Registry ω σ} {name : String} {e : Error}
    (work : Act σ α) (h : (connection name).apply r = (.error e, r')) :
    (within name work).apply r = (.error e, r') :=
  Act.apply_bind_of_error h

theorem within_of_ok {α : Type} {r r' : Registry ω σ} {name : String} {live : Live σ}
    (work : Act σ α) (h : (connection name).apply r = (.ok live, r')) :
    (within name work).apply r =
      ((work.apply live.state).1,
        { r' with live := r'.live.insert name { live with state := (work.apply live.state).2 } }) :=
  Act.apply_bind_of_ok h

/-- Asking for a connection, and work on it, leaves the others as they are. -/
theorem get?_connection_of_ne (r : Registry ω σ) {name other : String} (h : name ≠ other) :
    ((connection name).apply r).2.live.get? other = r.live.get? other := by
  obtain ⟨result, r', happ, hc⟩ := exists_connects r name
  rw [happ]
  cases hc with
  | opened _ _ _ =>
    rw [OrderedMap.get?_insert]
    exact if_neg h
  | _ => rfl

theorem get?_within_of_ne {α : Type} (r : Registry ω σ) {name other : String} (work : Act σ α)
    (h : name ≠ other) :
    ((within name work).apply r).2.live.get? other = r.live.get? other := by
  rw [← get?_connection_of_ne r h]
  obtain ⟨result, r', hc, -⟩ := exists_connects r name
  rw [hc]
  cases result with
  | error e => rw [within_of_error work hc]
  | ok live =>
    rw [within_of_ok work hc, OrderedMap.get?_insert]
    exact if_neg h

/-- Work on a connection changes nothing but the state of the connection. -/
theorem like_within {α : Type} (r : Registry ω σ) (name : String) (work : Act σ α) :
    Like ((connection name).apply r).2 ((within name work).apply r).2 := by
  obtain ⟨result, r', h, -⟩ := exists_connects r name
  rw [h]
  cases result with
  | error e =>
    rw [within_of_error work h]
    exact .refl r'
  | ok live =>
    have hl := get?_connection h
    rw [within_of_ok work h]
    refine ⟨rfl, rfl, rfl, ?_, rfl⟩
    refine (serial?_insert r' name _ _ _).trans (Function.update_eq_self_iff.2 ?_)
    rw [serial?, hl]
    rfl

/-- A call of a registry. The default connection is the one under its name. -/
inductive Call (σ : Type) : Type 1 where
  | connection (name : String)
  | within {α : Type} (name : String) (work : Act σ α)
  | table (name : String)
  | query (sql : String)
  | transaction {α : Type} (work : Act σ α)
  | isConnected (name : String)
  | disconnect (name : String)

/-- What a call has to do with the open connections. -/
inductive Aim where
  /-- It asks for the connection under a name. -/
  | asks (name : String)
  /-- It forgets the connection under a name. -/
  | forgets (name : String)
  | looks
  deriving DecidableEq

namespace Call

/-- What a call has to do with the open connections. -/
def aim : Call σ → Aim
  | connection name | within name _ => .asks name
  | table _ | query _ | transaction _ => .asks defaultConnection
  | isConnected _ => .looks
  | disconnect name => .forgets name

variable [Connection σ]

/-- The registry after a call. -/
def after (r : Registry ω σ) : Call σ → Registry ω σ
  | connection name => ((Registry.connection name).apply r).2
  | within name work => ((Registry.within name work).apply r).2
  | table name => ((Registry.table name).apply r).2
  | query sql => ((Registry.query sql).apply r).2
  | transaction work => ((Registry.transaction work).apply r).2
  | isConnected _ => r
  | disconnect name => ((Registry.disconnect name).apply r).2

/-- The registry after calls. -/
def afterAll (r : Registry ω σ) : List (Call σ) → Registry ω σ
  | [] => r
  | call :: rest => afterAll (call.after r) rest

variable {call : Call σ} {r : Registry ω σ} {name : String}

/-- A call that asks for a name is work on its connection, or no more than asking. -/
theorem after_of_asks (h : call.aim = .asks name) :
    call.after r = ((Registry.connection name).apply r).2 ∨
      ∃ (α : Type) (work : Act σ α), call.after r = ((Registry.within name work).apply r).2 := by
  cases call with
  | connection other =>
    cases h
    exact .inl rfl
  | within other work =>
    cases h
    exact .inr ⟨_, work, rfl⟩
  | table other =>
    cases h
    exact .inr ⟨_, _, rfl⟩
  | query sql =>
    cases h
    exact .inr ⟨_, _, rfl⟩
  | transaction work =>
    cases h
    exact .inr ⟨_, _, rfl⟩
  | isConnected other => cases h
  | disconnect other => cases h

theorem like_of_asks (h : call.aim = .asks name) :
    Like ((Registry.connection name).apply r).2 (call.after r) := by
  rcases after_of_asks h with he | ⟨α, work, he⟩
  · rw [he]
    exact .refl _
  · rw [he]
    exact like_within r name work

theorem after_of_forgets (h : call.aim = .forgets name) :
    call.after r = { r with live := r.live.erase name } := by
  cases call with
  | disconnect other =>
    cases h
    rfl
  | _ => cases h

theorem after_of_looks (h : call.aim = .looks) : call.after r = r := by
  cases call with
  | isConnected name => rfl
  | _ => cases h

end Call

end BoundSql.Registry
