import BoundSql.Proofs.Registry.Calls
import Mathlib.Data.List.Induction

/-!
# Open connections over whole runs

A registry that begins without open connections opens each one when it is asked for, if it is
configured and not open, and keeps it until it is forgotten. What is known of a serial number is
carried from call to call (`Held`): a number that was given out is never given out again, and it
belongs to one name until that name is forgotten.

* `Call.changes`: what a call does to the numbers;
* `serial?_afterAll_isSome`: which connections are open;
* `serial_eq_iff`: when two calls give the same connection;
* `cache_discipline`: all of it, for every sequence of calls.
-/

namespace BoundSql.Registry

variable {ω σ : Type}

theorem serial?_erase (r : Registry ω σ) (name : String) :
    ({ r with live := r.live.erase name } : Registry ω σ).serial? =
      Function.update r.serial? name none := by
  funext other
  rw [serial?, OrderedMap.get?_erase, Function.update_apply]
  by_cases h : name = other
  · rw [if_pos h, if_pos h.symm, Option.map_none]
  · rw [if_neg h, if_neg (Ne.symm h), serial?]

theorem isConnected_disconnect (r : Registry ω σ) (name : String) :
    ((disconnect name).apply r).2.isConnected name = false := by
  show (r.live.erase name).contains name = false
  rw [OrderedMap.contains, OrderedMap.get?_erase, if_pos rfl]
  rfl

/-! ## One call -/

namespace Call

variable [Connection σ] {call : Call σ} {calls : List (Call σ)} {r : Registry ω σ} {name : String}

/-- What a call does to the numbers of the open connections. -/
inductive Changes (call : Call σ) (r r' : Registry ω σ) : Prop where
  | keeps (hf : ∀ name, call.aim ≠ .forgets name) (h : r'.serial? = r.serial?)
    (ho : r'.opened = r.opened)
  | opens (name : String) (ha : call.aim = .asks name) (hs : r.serial? name = none)
    (hc : r.catalog.contains name = true)
    (h : r'.serial? = Function.update r.serial? name (some r.opened))
    (ho : r'.opened = r.opened + 1)
  | forgets (name : String) (ha : call.aim = .forgets name)
    (h : r'.serial? = Function.update r.serial? name none) (ho : r'.opened = r.opened)

theorem changes (call : Call σ) (r : Registry ω σ) : call.Changes r (call.after r) := by
  cases ha : call.aim with
  | looks =>
    rw [after_of_looks ha]
    exact .keeps (fun _ hf => by rw [ha] at hf; cases hf) rfl rfl
  | forgets name =>
    rw [after_of_forgets ha]
    exact .forgets name ha (serial?_erase r name) rfl
  | asks name =>
    have like := like_of_asks (r := r) ha
    have notForgets (other : String) : call.aim ≠ .forgets other := fun hf => by
      rw [ha] at hf
      cases hf
    have hs := like.serial?.trans (serial?_connection r name)
    cases hh : r.handle? name with
    | none =>
      obtain ⟨hn, ho⟩ := of_handle?_eq_none hh
      rw [hh, Option.map_none, Function.update_eq_self_iff.2 hn.symm] at hs
      exact .keeps notForgets hs (like.opened.trans ho)
    | some live =>
      rw [hh, Option.map_some] at hs
      rcases serial_of_handle? hh with ⟨hn, ho⟩ | ⟨hn, hl, ho, hc⟩
      · rw [Function.update_eq_self_iff.2 hn.symm] at hs
        exact .keeps notForgets hs (like.opened.trans ho)
      · exact .opens name ha hn hc (hl ▸ hs) (like.opened.trans ho)

/-- After a call that asks for a name the name has the number of the connection it was given. -/
theorem serial?_of_asks (ha : call.aim = .asks name) :
    (call.after r).serial? name = (r.handle? name).map Live.serial := by
  rw [(like_of_asks ha).serial?, serial?_connection, Function.update_self]

theorem catalog_after (call : Call σ) (r : Registry ω σ) : (call.after r).catalog = r.catalog := by
  cases ha : call.aim with
  | looks => rw [after_of_looks ha]
  | forgets name => rw [after_of_forgets ha]
  | asks name =>
    rw [(like_of_asks ha).catalog, (connects r name).catalog]

theorem connector_after (call : Call σ) (r : Registry ω σ) :
    (call.after r).connector = r.connector := by
  cases ha : call.aim with
  | looks => rw [after_of_looks ha]
  | forgets name => rw [after_of_forgets ha]
  | asks name =>
    rw [(like_of_asks ha).connector, (connects r name).connector]

/-! ## Runs -/

theorem afterAll_append (r : Registry ω σ) (calls others : List (Call σ)) :
    afterAll r (calls ++ others) = afterAll (afterAll r calls) others := by
  induction calls generalizing r with
  | nil => rfl
  | cons call rest ih => exact ih (call.after r)

/-- What every call of a run preserves holds after the run. -/
theorem afterAll_induction {P : Registry ω σ → Prop} (h : P r)
    (step : ∀ call ∈ calls, ∀ r : Registry ω σ, P r → P (call.after r)) :
    P (afterAll r calls) := by
  induction calls generalizing r with
  | nil => exact h
  | cons call rest ih =>
    rw [List.forall_mem_cons] at step
    exact ih (step.1 r h) step.2

/-- A name keeps its connection until it is forgotten. -/
theorem serial?_afterAll {n : Nat} (h : r.serial? name = some n)
    (hf : ∀ call ∈ calls, call.aim ≠ .forgets name) :
    (afterAll r calls).serial? name = some n := by
  refine afterAll_induction (P := fun r => r.serial? name = some n) h fun call hcall r hr => ?_
  cases call.changes r with
  | keeps _ hs _ => rw [hs, hr]
  | opens other _ hn _ hs _ =>
    have hne : name ≠ other := fun he => by
      rw [← he, hr] at hn
      cases hn
    rw [hs, Function.update_of_ne hne, hr]
  | forgets other ha hs _ =>
    have hne : name ≠ other := fun he => hf call hcall (he ▸ ha)
    rw [hs, Function.update_of_ne hne, hr]

/-- The connection with a number was opened, and only the names in question may have it. -/
structure Held (n : Nat) (names : String → Prop) (r : Registry ω σ) : Prop where
  opened : n < r.opened
  names : ∀ name, r.serial? name = some n → names name

theorem held_after {n : Nat} {names : String → Prop} (h : Held n names r) (call : Call σ) :
    Held n names (call.after r) := by
  cases call.changes r with
  | keeps _ hs ho => exact ⟨ho ▸ h.opened, fun name hn => h.names name (hs ▸ hn)⟩
  | opens other _ _ _ hs ho =>
    have hlt := h.opened
    refine ⟨by omega, fun name hn => ?_⟩
    rw [hs, Function.update_apply] at hn
    split at hn
    · exact absurd (Option.some.inj hn) (by omega)
    · exact h.names name hn
  | forgets other _ hs ho =>
    refine ⟨ho ▸ h.opened, fun name hn => ?_⟩
    rw [hs, Function.update_apply] at hn
    split at hn
    · cases hn
    · exact h.names name hn

theorem held_afterAll {n : Nat} {names : String → Prop} (h : Held n names r)
    (calls : List (Call σ)) : Held n names (afterAll r calls) :=
  afterAll_induction h fun call _ _ hr => held_after hr call

/-- Every number belongs to one name, which is configured. -/
structure Sound (r : Registry ω σ) : Prop where
  held : ∀ {name n}, r.serial? name = some n → Held n (· = name) r
  configured : ∀ {name n}, r.serial? name = some n → r.catalog.contains name = true

theorem sound_after (h : Sound r) (call : Call σ) : Sound (call.after r) := by
  have hcat := call.catalog_after r
  cases call.changes r with
  | keeps _ hs _ =>
    refine ⟨fun hn => held_after (h.held (hs ▸ hn)) call, fun hn => ?_⟩
    rw [hcat]
    exact h.configured (hs ▸ hn)
  | opens other _ hnone hc hs ho =>
    constructor
    · intro name n hn
      rw [hs, Function.update_apply] at hn
      split at hn
      · rename_i hname
        obtain rfl := Option.some.inj hn
        refine ⟨by omega, fun third ht => ?_⟩
        rw [hs, Function.update_apply] at ht
        split at ht
        · rename_i hthird
          exact hthird.trans hname.symm
        · exact absurd (h.held ht).opened (Nat.lt_irrefl _)
      · exact held_after (h.held hn) call
    · intro name n hn
      rw [hcat]
      rw [hs, Function.update_apply] at hn
      split at hn
      · rename_i hname
        rw [hname, hc]
      · exact h.configured hn
  | forgets other _ hs _ =>
    have old {name : String} {n : Nat} (hn : (call.after r).serial? name = some n) :
        r.serial? name = some n := by
      rw [hs, Function.update_apply] at hn
      split at hn
      · cases hn
      · exact hn
    refine ⟨fun hn => held_after (h.held (old hn)) call, fun hn => ?_⟩
    rw [hcat]
    exact h.configured (old hn)

theorem sound_afterAll (h : Sound r) (calls : List (Call σ)) : Sound (afterAll r calls) :=
  afterAll_induction h fun call _ _ hr => sound_after hr call

/-! ## Which connections are open -/

/-- A call gave the connection under a name, and no later one forgot it. -/
def OpenSince (r : Registry ω σ) (calls : List (Call σ)) (name : String) : Prop :=
  ∃ before call later, calls = before ++ call :: later ∧ call.aim = .asks name ∧
    ((afterAll r before).handle? name).isSome ∧ ∀ other ∈ later, other.aim ≠ .forgets name

theorem serial?_after_isSome (call : Call σ) (r : Registry ω σ) (name : String) :
    ((call.after r).serial? name).isSome ↔
      (call.aim = .asks name ∧ (r.handle? name).isSome) ∨
        ((r.serial? name).isSome ∧ call.aim ≠ .forgets name) := by
  by_cases ha : call.aim = .asks name
  · have kept : (r.serial? name).isSome → (r.handle? name).isSome := fun hs => by
      cases hh : r.handle? name with
      | none => rw [(of_handle?_eq_none hh).1] at hs; cases hs
      | some live => rfl
    rw [serial?_of_asks ha, Option.isSome_map, ha]
    simpa using kept
  · cases call.changes r with
    | keeps hf hs _ => simp [hs, ha, hf name]
    | opens other hother _ _ hs _ =>
      have hne : name ≠ other := fun he => ha (he ▸ hother)
      rw [hs, Function.update_of_ne hne, hother]
      simp [Ne.symm hne]
    | forgets other hf hs _ =>
      rw [hs, hf, Function.update_apply]
      by_cases h : name = other
      · simp [h]
      · simp [h, Ne.symm h]

/-- A name has an open connection exactly when a call gave one that was not forgotten since. -/
theorem serial?_afterAll_isSome (hr : r.serial? name = none) (calls : List (Call σ)) :
    ((afterAll r calls).serial? name).isSome ↔ OpenSince r calls name := by
  induction calls using List.reverseRecOn with
  | nil =>
    rw [afterAll, hr]
    simp [OpenSince]
  | append_singleton calls call ih =>
    rw [afterAll_append, afterAll, afterAll, serial?_after_isSome, ih]
    constructor
    · rintro (⟨ha, hh⟩ | ⟨⟨before, first, later, rfl, ha, hh, hl⟩, hf⟩)
      · exact ⟨calls, call, [], rfl, ha, hh, nofun⟩
      · refine ⟨before, first, later ++ [call], by simp, ha, hh, ?_⟩
        simpa [or_imp, forall_and] using ⟨hl, hf⟩
    · rintro ⟨before, first, later, he, ha, hh, hl⟩
      rcases List.eq_nil_or_concat later with rfl | ⟨rest, last, rfl⟩
      · obtain ⟨rfl, h⟩ := List.append_inj' he rfl
        obtain rfl := List.singleton_inj.1 h
        exact .inl ⟨ha, hh⟩
      · rw [List.concat_eq_append, ← List.cons_append, ← List.append_assoc] at he
        obtain ⟨rfl, h⟩ := List.append_inj' he rfl
        obtain rfl := List.singleton_inj.1 h
        refine .inr ⟨⟨before, first, rest, rfl, ha, hh, fun other ho => hl other ?_⟩, hl call ?_⟩
        · simp [ho]
        · simp

/-! ## When two calls give the same connection -/

/-- Two calls give the same connection exactly when they ask for the same name and it was not
forgotten between them. -/
theorem serial_eq_iff (h : Sound r) {first : Call σ} (ha : first.aim = .asks name) {live : Live σ}
    (hh : r.handle? name = some live) (between : List (Call σ)) {other : String}
    {again : Live σ} (hagain : (afterAll r (first :: between)).handle? other = some again) :
    again.serial = live.serial ↔
      other = name ∧ ∀ call ∈ between, call.aim ≠ .forgets name := by
  have hfirst : (first.after r).serial? name = some live.serial := by
    rw [serial?_of_asks ha, hh, Option.map_some]
  have held := (sound_after h first).held hfirst
  rw [afterAll] at hagain
  have given := serial_of_handle? hagain
  constructor
  · intro heq
    -- A number that is still given belongs to a name that may have it.
    have allowed {names : String → Prop}
        (hn : Held live.serial names (afterAll (first.after r) between)) : names other := by
      rcases given with ⟨hs, -⟩ | ⟨-, hs, -⟩
      · exact hn.names other (heq ▸ hs)
      · exact absurd hn.opened (by omega)
    refine ⟨allowed (held_afterAll held between), fun call hcall hf => ?_⟩
    obtain ⟨earlier, later, rfl⟩ := List.append_of_mem hcall
    have before := held_afterAll held earlier
    have gone : Held live.serial (fun _ => False)
        (call.after (afterAll (first.after r) earlier)) := by
      refine ⟨(held_after before call).opened, fun third ht => ?_⟩
      obtain rfl := (held_after before call).names third ht
      rw [after_of_forgets hf, serial?_erase, Function.update_self] at ht
      cases ht
    rw [afterAll_append, afterAll] at allowed
    exact allowed (held_afterAll gone later)
  · rintro ⟨rfl, hf⟩
    have kept := serial?_afterAll hfirst hf
    rcases given with ⟨hs, -⟩ | ⟨hs, -⟩
    · exact Option.some.inj (hs.symm.trans kept)
    · rw [kept] at hs
      cases hs

/-- A call that neither asks for a name nor forgets it leaves its connection as it is. -/
theorem get?_after_of_ne (call : Call σ) (r : Registry ω σ) (ha : call.aim ≠ .asks name)
    (hf : call.aim ≠ .forgets name) : (call.after r).live.get? name = r.live.get? name := by
  cases h : call.aim with
  | looks => rw [after_of_looks h]
  | forgets other =>
    have hne : other ≠ name := fun he => hf (he ▸ h)
    rw [after_of_forgets h, OrderedMap.get?_erase]
    exact if_neg hne
  | asks other =>
    have hne : other ≠ name := fun he => ha (he ▸ h)
    rcases after_of_asks h with he | ⟨α, work, he⟩
    · rw [he, get?_connection_of_ne r hne]
    · rw [he, get?_within_of_ne r work hne]

end Call

/-! ## Calls of the connector -/

/-- The connector that also records the names for which it is called, oldest first. -/
def recorded (connector : Connector ω σ) : Connector (List String × ω) σ := fun name entry =>
  .ofFunction fun (names, world) =>
    let (result, world) := (connector name entry).apply world
    (result, (names ++ [name], world))

/-- A registry without open connections, whose connector records the names for which it is
called. -/
def start (catalog : Catalog) (connector : Connector ω σ) (world : ω) :
    Registry (List String × ω) σ :=
  { catalog, connector := recorded connector, world := ([], world) }

/-- The names for which a call calls the connector: the name that it asks for, when it is configured
and not open. -/
def Call.opening (r : Registry ω σ) (call : Call σ) : List String :=
  match call.aim with
  | .asks name =>
    if r.isConnected name = false ∧ r.catalog.contains name = true then [name] else []
  | .forgets _ | .looks => []

theorem world_connection {r : Registry (List String × ω) σ} {connector : Connector ω σ}
    (hr : r.connector = recorded connector) (name : String) :
    ((connection name).apply r).2.world.1 = r.world.1 ++
      if r.isConnected name = false ∧ r.catalog.contains name = true then [name] else [] := by
  obtain ⟨result, r', happ, hc⟩ := exists_connects r name
  rw [happ, isConnected, OrderedMap.contains, OrderedMap.contains]
  cases hc with
  | cached h => simp [h]
  | unknown h hc => simp [h, hc]
  | refused h hc ho =>
    rw [hr] at ho
    have hw : r.world.1 ++ [name] = _ := congrArg (fun outcome => outcome.2.1) ho
    simp [h, hc, hw]
  | opened h hc ho =>
    rw [hr] at ho
    have hw : r.world.1 ++ [name] = _ := congrArg (fun outcome => outcome.2.1) ho
    simp [h, hc, hw]

/-- A call calls the connector for the name that it opens, and for no other. -/
theorem world_after [Connection σ] {r : Registry (List String × ω) σ} {connector : Connector ω σ}
    (hr : r.connector = recorded connector) (call : Call σ) :
    (call.after r).world.1 = r.world.1 ++ call.opening r := by
  unfold Call.opening
  cases ha : call.aim with
  | looks => rw [Call.after_of_looks ha, List.append_nil]
  | forgets name => rw [Call.after_of_forgets ha, List.append_nil]
  | asks name => rw [(Call.like_of_asks ha).world, world_connection hr]

/-- A connection that is not given is no cause for a change: the registry keeps its connections, and
the error is that of the connector, in context, or that the name is not known. -/
theorem of_connection_error {r r' : Registry ω σ} {name : String} {e : Error}
    (h : (connection name).apply r = (.error e, r')) :
    r'.live = r.live ∧ r'.opened = r.opened ∧
      ((e = .unknownConnection name ∧ r.catalog.contains name = false ∧ r' = r) ∨
        ∃ entry cause world, r.catalog.get? name = some entry ∧
          (r.connector name entry).apply r.world = (.error cause, world) ∧
          e = .withContext ("Failed to open connection '" ++ name ++ "'") cause ∧
          e.code = cause.code) := by
  have hc := connects r name
  rw [h] at hc
  cases hc with
  | unknown hl hcat => exact ⟨rfl, rfl, .inl ⟨rfl, by rw [OrderedMap.contains, hcat]; rfl, rfl⟩⟩
  | refused hl hcat ho => exact ⟨rfl, rfl, .inr ⟨_, _, _, hcat, ho, rfl, rfl⟩⟩

/-! ## The discipline -/

/-- What holds of a registry after calls. -/
structure Disciplined [Connection σ] (start r : Registry (List String × ω) σ)
    (calls : List (Call σ)) : Prop where
  catalog : r.catalog = start.catalog
  connector : r.connector = start.connector
  /-- The open connection is given; an unknown name is refused; the connector opens any other, and
  its error is given in one line of context. -/
  connects : ∀ name, Connects r name ((connection name).apply r).1 ((connection name).apply r).2
  error : ∀ {name e r'}, (connection name).apply r = (.error e, r') →
    r'.live = r.live ∧
      ((e = .unknownConnection name ∧ r.catalog.contains name = false ∧ r' = r) ∨
        ∃ entry cause world, r.catalog.get? name = some entry ∧
          (r.connector name entry).apply r.world = (.error cause, world) ∧
          e = .withContext ("Failed to open connection '" ++ name ++ "'") cause ∧
          e.code = cause.code)
  /-- Work needs its connection, and is done on the state that was left there. -/
  within : ∀ {α : Type} {name : String} (work : Act σ α) {r'},
    (∀ e, (connection name).apply r = (.error e, r') →
      (within name work).apply r = (.error e, r')) ∧
    (∀ live, (connection name).apply r = (.ok live, r') →
      (within name work).apply r = ((work.apply live.state).1,
        { r' with live := r'.live.insert name ⟨live.serial, (work.apply live.state).2⟩ }))
  /-- The connector is called for a name exactly when the name is configured and not open. -/
  invoked : ∀ call : Call σ, (call.after r).world.1 = r.world.1 ++ call.opening r
  configured : ∀ name, r.isConnected name = true → start.catalog.contains name = true
  isConnected : ∀ name, r.isConnected name = true ↔ Call.OpenSince start calls name
  /-- Calls for a name give the same connection until the name is forgotten, and then another. -/
  same : ∀ {before first between name live other again},
    calls = before ++ first :: between → first.aim = .asks name →
    (Call.afterAll start before).handle? name = some live → r.handle? other = some again →
    (again.serial = live.serial ↔ other = name ∧ ∀ call ∈ between, call.aim ≠ .forgets name)
  disconnect : ∀ name, ((disconnect name).apply r).1 = .ok (r.isConnected name) ∧
    ((disconnect name).apply r).2.isConnected name = false
  /-- No call affects a name that it neither asks for nor forgets. -/
  others : ∀ (call : Call σ) name, call.aim ≠ .asks name → call.aim ≠ .forgets name →
    (call.after r).live.get? name = r.live.get? name

/-- Whatever is asked of a registry that begins without open connections, and whenever its connector
fails: the connector is called for a name exactly when the name is configured and not open; calls
for a name give the same connection until the name is forgotten; and just those names have an open
connection for which one was given and not forgotten since. -/
theorem cache_discipline [Connection σ] (catalog : Catalog) (connector : Connector ω σ)
    (world : ω) (calls : List (Call σ)) :
    Disciplined (start catalog connector world)
      (Call.afterAll (start catalog connector world) calls) calls := by
  have hcat : (Call.afterAll (start catalog connector world) calls).catalog = catalog :=
    Call.afterAll_induction (P := fun r => r.catalog = catalog) rfl
      fun call _ r hr => (call.catalog_after r).trans hr
  have hcon : (Call.afterAll (start catalog connector world) calls).connector =
      recorded connector :=
    Call.afterAll_induction (P := fun r => r.connector = recorded connector) rfl
      fun call _ r hr => (call.connector_after r).trans hr
  have sound : Call.Sound (start catalog connector world) := ⟨nofun, nofun⟩
  exact {
    catalog := hcat
    connector := hcon
    connects := connects _
    error := fun h => (of_connection_error h).imp id And.right
    within := fun work => ⟨fun _ => within_of_error work, fun _ => within_of_ok work⟩
    invoked := world_after hcon
    configured := fun name h => by
      obtain ⟨n, hn⟩ := Option.isSome_iff_exists.1 (isConnected_iff.1 h)
      rw [← hcat]
      exact (Call.sound_afterAll sound calls).configured hn
    isConnected := fun name => isConnected_iff.trans (Call.serial?_afterAll_isSome rfl calls)
    same := fun hcalls ha hh hagain => by
      subst hcalls
      rw [Call.afterAll_append] at hagain
      exact Call.serial_eq_iff (Call.sound_afterAll sound _) ha hh _ hagain
    disconnect := fun name => ⟨rfl, isConnected_disconnect _ name⟩
    others := fun call name => call.get?_after_of_ne _ }

end BoundSql.Registry
