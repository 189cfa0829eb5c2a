import SortPipeline.Proofs.FirstFault
import SortPipeline.Proofs.KeptMembers
import SortPipeline.Proofs.Writing

namespace SortPipeline

@[simp] theorem Outcome.result_eq_ok_iff {outcome : Outcome} {after : Value} :
    outcome.result = .ok after ↔ outcome = .done after := by
  cases outcome <;> simp [result]

namespace Stage

theorem result_writeEach (writes : List (String × Option Value)) (document : Value) :
    (writeEach writes document).result = writeAll document writes := by
  induction writes generalizing document with
  | nil => rfl
  | cons w rest ih =>
    obtain ⟨name, value⟩ := w
    cases value with
    | none => exact ih document
    | some v =>
      rw [writeEach, writeAll, Value.write_eq]
      cases document.setPath? name v with
      | none => rfl
      | some written => exact ih written

theorem result_assignInPlace (assignments : List (String × Expr)) (document : Value) :
    (assignInPlace assignments document).result = assign assignments document := by
  unfold assignInPlace assign
  cases evaluateAll document assignments with
  | error fault => rfl
  | ok writes => exact result_writeEach writes document

theorem assignInPlace_eq_done_iff {assignments : List (String × Expr)} {document after : Value} :
    assignInPlace assignments document = .done after ↔ assign assignments document = .ok after := by
  rw [← result_assignInPlace, Outcome.result_eq_ok_iff]

theorem assignInPlace_of_fault {assignments : List (String × Expr)} {document : Value}
    {fault : RunFault}
    (h : First (fun a fault => a.2.evaluate a.1 document = .error fault) assignments fault) :
    assignInPlace assignments document = .refused fault document := by
  rw [assignInPlace, evaluateAll_eq_error_iff.2 h]

theorem get?_of_writeAll {writes : List (String × Option Value)}
    {members written : List (String × Value)}
    (hdots : ∀ n ∈ Entries.names writes, Path.Undotted n) (hnodup : (Entries.names writes).Nodup)
    (h : writeAll (.object members) writes = .ok (.object written)) (name : String) :
    Entries.get? name written =
      (Entries.get? name writes).join.or (Entries.get? name members) := by
  induction writes generalizing members with
  | nil =>
    cases h
    rfl
  | cons w rest ih =>
    obtain ⟨n, value⟩ := w
    obtain ⟨hdot, hrest⟩ := List.forall_mem_cons.1 hdots
    obtain ⟨hfresh, hunique⟩ := List.nodup_cons.1 hnodup
    have hnone : Entries.get? n rest = none := (Entries.get?_eq_none_iff n rest).2 hfresh
    cases value with
    | none =>
      rw [ih hrest hunique h]
      by_cases hn : n = name
      · simp [← hn, hnone, Entries.get?]
      · simp [hn, Entries.get?]
    | some v =>
      rw [writeAll, Value.setPath?_object hdot] at h
      rw [ih hrest hunique h, Entries.get?_set]
      by_cases hn : n = name
      · simp [← hn, hnone, Entries.get?]
      · simp [hn, Entries.get?]

/-- Each assigned member has the value that its expression has in the old document; where that is
missing, it is what it was. All other members are what they were. -/
structure Assigned (assignments : List (String × Expr)) (members written : List (String × Value)) :
    Prop where
  evaluate_eq : ∀ a ∈ assignments, ∃ found, a.2.evaluate a.1 (.object members) = .ok found ∧
    Entries.get? a.1 written = found.or (Entries.get? a.1 members)
  without_eq : Entries.without (Entries.names assignments) written =
    Entries.without (Entries.names assignments) members

variable {assignments permuted : List (String × Expr)}
  {members written rewritten : List (String × Value)}

theorem exists_assigned (hnodup : (Entries.names assignments).Nodup)
    (hdots : ∀ n ∈ Entries.names assignments, Path.Undotted n) {after : Value}
    (h : assign assignments (.object members) = .ok after) :
    ∃ written, after = .object written ∧ Assigned assignments members written := by
  obtain ⟨writes, hwrites, hwritten⟩ := assign_eq_ok_iff.1 h
  have hnames := names_of_evaluateAll hwrites
  obtain ⟨written, rfl, -, hkept⟩ := writeAll_keeps hdots (fun _ hn => hnames ▸ hn) hwritten
  refine ⟨written, rfl, fun a ha => ?_, hkept⟩
  obtain ⟨found, hfound, hget⟩ := get?_of_evaluateAll hwrites (Entries.get?_of_mem hnodup ha)
  refine ⟨found, hfound, ?_⟩
  rw [get?_of_writeAll (hnames ▸ hdots) (hnames ▸ hnodup) hwritten, hget]
  rfl

theorem Assigned.get?_eq (h : Assigned assignments members written)
    (h' : Assigned permuted members rewritten) (hperm : permuted.Perm assignments)
    (name : String) : Entries.get? name rewritten = Entries.get? name written := by
  by_cases hname : name ∈ Entries.names assignments
  · obtain ⟨a, ha, rfl⟩ := List.mem_map.1 hname
    obtain ⟨found, hfound, hget⟩ := h.evaluate_eq a ha
    obtain ⟨found', hfound', hget'⟩ := h'.evaluate_eq a (hperm.mem_iff.2 ha)
    obtain rfl : found = found' := Except.ok.inj (hfound.symm.trans hfound')
    rw [hget, hget']
  · have hname' : name ∉ Entries.names permuted := fun hmem =>
      hname ((hperm.map Prod.fst).mem_iff.1 hmem)
    rw [← Entries.get?_without hname', h'.without_eq, Entries.get?_without hname',
      ← Entries.get?_without hname written, h.without_eq, Entries.get?_without hname]

/-- Every expression is evaluated before anything is assigned. So the order of the assignments does
not matter to what is assigned, and if one of the expressions fails, nothing is. -/
theorem assign_simultaneous (assignments : List (String × Expr)) (document : Value) :
    (∀ members, document = .object members → (Entries.names assignments).Nodup →
      (∀ n ∈ Entries.names assignments, Path.Undotted n) →
      ∀ after, assignInPlace assignments document = .done after →
        ∃ written, after = .object written ∧ Assigned assignments members written ∧
          ∀ permuted, permuted.Perm assignments →
            ∃ rewritten, assignInPlace permuted document = .done (.object rewritten) ∧
              ∀ name, Entries.get? name rewritten = Entries.get? name written) ∧
    ((∃ a ∈ assignments, ∃ fault, a.2.evaluate a.1 document = .error fault) →
      ∃ fault, assignInPlace assignments document = .refused fault document) := by
  constructor
  · rintro members rfl hnodup hdots after h
    rw [assignInPlace_eq_done_iff] at h
    obtain ⟨written, rfl, hwritten⟩ := exists_assigned hnodup hdots h
    refine ⟨written, rfl, hwritten, fun permuted hperm => ?_⟩
    have hnames := hperm.map Prod.fst
    have hdots' : ∀ n ∈ Entries.names permuted, Path.Undotted n := fun n hn =>
      hdots n (hnames.mem_iff.1 hn)
    obtain ⟨after', h'⟩ := (exists_assign_iff hdots').2 fun a ha =>
      (exists_assign_iff hdots).1 ⟨_, h⟩ a (hperm.mem_iff.1 ha)
    obtain ⟨rewritten, rfl, hrewritten⟩ := exists_assigned (hnames.nodup_iff.2 hnodup) hdots' h'
    exact ⟨rewritten, assignInPlace_eq_done_iff.2 h', hwritten.get?_eq hrewritten hperm⟩
  · intro h
    obtain ⟨fault, hfirst⟩ := exists_first_iff.2 h
    exact ⟨fault, assignInPlace_of_fault hfirst⟩

def swap : List (String × Expr) := [("a", .field "b"), ("b", .field "a")]

def unswapped : List (String × Value) := [("a", .bool true), ("c", .null), ("b", .bool false)]

def swapped : List (String × Value) := [("a", .bool false), ("c", .null), ("b", .bool true)]

theorem swap_assigned :
    (Entries.names swap).Nodup ∧ (∀ n ∈ Entries.names swap, Path.Undotted n) ∧
    assignInPlace swap (.object unswapped) = .done (.object swapped) ∧
    Assigned swap unswapped swapped ∧
    ∃ rewritten, assignInPlace swap.reverse (.object unswapped) = .done (.object rewritten) ∧
      ∀ name, Entries.get? name rewritten = Entries.get? name swapped := by
  have hnodup : (Entries.names swap).Nodup := by decide
  have hdots : ∀ n ∈ Entries.names swap, Path.Undotted n := by
    simp [swap, Path.Undotted]
  have hdone : assignInPlace swap (.object unswapped) = .done (.object swapped) := rfl
  obtain ⟨written, hwritten, hassigned, hperm⟩ :=
    (assign_simultaneous swap (.object unswapped)).1 unswapped rfl hnodup hdots _ hdone
  cases hwritten
  exact ⟨hnodup, hdots, hdone, hassigned, hperm swap.reverse (List.reverse_perm swap)⟩

end Stage

end SortPipeline
