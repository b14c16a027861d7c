import BoundSql.Error

/-!
# Errors under context

An error is in exactly one way a root, which has no context, under lines of context (`Layered`,
`exists_layered`, `Layered.unique`). Whatever is asked of an error is answered from these two parts:
its code and whether a driver is to blame from the root (`Layered.code_eq`, `Layered.isDriver_eq`),
its message from the line added last (`Layered.message_eq`), and its chain from all lines, the last
one first, and the message of the root (`Layered.chain_eq`).

Calls that add context only add lines (`Layered.addAllTo`), so no number of them hides the root
(`contexts_keep_root`).
-/

namespace BoundSql

namespace Error

/-- An error that is not another error under a line of context. -/
def IsRoot (e : Error) : Prop :=
  ∀ line source, e ≠ withContext line source

/-- An error is `root` under `lines` of context, in the order in which they were added. -/
inductive Layered (root : Error) : List String → Error → Prop where
  | bare (h : root.IsRoot) : Layered root [] root
  | under {lines : List String} {e : Error} (line : String) (h : Layered root lines e) :
    Layered root (lines ++ [line]) (withContext line e)

variable {root e : Error} {lines : List String}

/-! ## The parts of an error -/

theorem exists_layered (e : Error) : ∃ root lines, Layered root lines e := by
  induction e with
  | withContext line source ih =>
    obtain ⟨root, lines, h⟩ := ih
    exact ⟨root, lines ++ [line], h.under line⟩
  | _ => exact ⟨_, [], .bare fun _ _ h => nomatch h⟩

theorem Layered.unique {root' : Error} {lines' : List String} (h : Layered root lines e)
    (h' : Layered root' lines' e) : root' = root ∧ lines' = lines := by
  induction h generalizing lines' with
  | bare hroot =>
    cases h' with
    | bare => exact ⟨rfl, rfl⟩
    | under line => exact absurd rfl (hroot _ _)
  | under line _ ih =>
    cases h' with
    | bare hroot => exact absurd rfl (hroot _ _)
    | under _ h' =>
      obtain ⟨rfl, rfl⟩ := ih h'
      exact ⟨rfl, rfl⟩

/-! ## What the parts tell -/

theorem Layered.code_eq (h : Layered root lines e) : e.code = root.code := by
  induction h with
  | bare => rfl
  | under line _ ih => exact (code_withContext line _).trans ih

theorem Layered.isDriver_eq (h : Layered root lines e) : e.isDriver = root.isDriver := by
  induction h with
  | bare => rfl
  | under line _ ih => exact (isDriver_withContext line _).trans ih

/-- The error that a driver is to blame for has the code of drivers, under any context. -/
theorem isDriver_iff_code (e : Error) : e.isDriver = true ↔ e.code = "E_DRIVER" := by
  induction e with
  | withContext line source ih => rwa [isDriver_withContext, code_withContext]
  | _ => simp [isDriver, code]

theorem IsRoot.isDriver_iff (h : root.IsRoot) :
    root.isDriver = true ↔ ∃ fault, root = .driver fault := by
  cases root with
  | withContext line source => exact absurd rfl (h line source)
  | _ => simp [isDriver]

theorem Layered.isRoot (h : Layered root lines e) : root.IsRoot := by
  induction h with
  | bare hroot => exact hroot
  | under _ _ ih => exact ih

theorem Layered.message_eq (h : Layered root lines e) :
    e.message = lines.getLast?.getD root.message := by
  cases h with
  | bare => rw [List.getLast?_nil, Option.getD_none]
  | under line => rw [List.getLast?_concat, Option.getD_some, message_withContext]

theorem IsRoot.chain_eq (h : root.IsRoot) : root.chain = [root.message] := by
  cases root with
  | withContext line source => exact absurd rfl (h line source)
  | _ => rfl

theorem Layered.chain_eq (h : Layered root lines e) :
    e.chain = lines.reverse ++ [root.message] := by
  induction h with
  | bare hroot => exact hroot.chain_eq
  | under line _ ih => rw [chain_withContext, ih, List.reverse_concat, List.cons_append]

/-! ## Adding context -/

theorem Layered.addAllTo {α : Type} (h : Layered root lines e) (calls : List ContextCall) :
    ∃ wrapped, ContextCall.addAllTo calls (.error e : Except Error α) = .error wrapped ∧
      Layered root (lines ++ calls.map ContextCall.line) wrapped := by
  induction calls generalizing e lines with
  | nil => exact ⟨e, rfl, by rwa [List.map_nil, List.append_nil]⟩
  | cons call calls ih =>
    obtain ⟨wrapped, hcalls, hlayered⟩ := ih (h.under call.line)
    refine ⟨wrapped, ?_, ?_⟩
    · rwa [ContextCall.addAllTo, List.foldl_cons, ContextCall.addTo_error]
    · rwa [List.map_cons, List.append_cons]

end Error

open Error

/-- An error has one root and one list of lines of context. Further lines, however they are added,
go over these: the code and whether a driver is to blame stay those of the root, the message is the
line added last, or that of the root without any, and the chain has every line, from the last to the
first, and the message of the root after them. -/
theorem contexts_keep_root {α : Type} (e : Error) :
    ∃ root lines, (∀ root' lines', Layered root' lines' e ↔ root' = root ∧ lines' = lines) ∧
      ∀ calls : List ContextCall,
        ∃ wrapped, ContextCall.addAllTo calls (.error e : Except Error α) = .error wrapped ∧
          Layered root (lines ++ calls.map ContextCall.line) wrapped ∧
          wrapped.code = root.code ∧
          wrapped.isDriver = root.isDriver ∧
          (wrapped.isDriver = true ↔ wrapped.code = "E_DRIVER") ∧
          (wrapped.isDriver = true ↔ ∃ fault, root = .driver fault) ∧
          wrapped.message = (lines ++ calls.map ContextCall.line).getLast?.getD root.message ∧
          wrapped.chain =
            (lines ++ calls.map ContextCall.line).reverse ++ [root.message] ∧
          wrapped.chain.length = lines.length + calls.length + 1 := by
  obtain ⟨root, lines, h⟩ := exists_layered e
  refine ⟨root, lines, fun root' lines' => ⟨h.unique, ?_⟩, fun calls => ?_⟩
  · rintro ⟨rfl, rfl⟩
    exact h
  · obtain ⟨wrapped, hcalls, hw⟩ := h.addAllTo (α := α) calls
    have hdriver : wrapped.isDriver = true ↔ ∃ fault, root = .driver fault := by
      rw [hw.isDriver_eq]
      exact hw.isRoot.isDriver_iff
    have hlength : wrapped.chain.length = lines.length + calls.length + 1 := by
      rw [hw.chain_eq, List.length_append, List.length_reverse, List.length_append,
        List.length_map, List.length_singleton]
    exact ⟨wrapped, hcalls, hw, hw.code_eq, hw.isDriver_eq, isDriver_iff_code wrapped, hdriver,
      hw.message_eq, hw.chain_eq, hlength⟩

-- The line that was added last is read first.
example :
    (withContext "Cannot paginate users" (withContext "Failed to execute SELECT"
      (driver (.reported "no such table: users")))).chainText =
    "Cannot paginate users -> Failed to execute SELECT -> Driver error: no such table: users" := by
  decide

end BoundSql
