import Mathlib.Data.List.Perm.Basic
import SortPipeline.Document.Execution
import SortPipeline.Proofs.ListLaws

namespace SortPipeline

theorem Stage.run_perm {stage : Stage} {documents out : List Value}
    (h : stage.run documents = .ok out) :
    ∃ results, List.Forall₂ (fun d r => stage.applyTo d = .ok r) documents results ∧
      results.Perm out := by
  cases stage with
  | sort keys =>
    cases h
    exact ⟨documents, List.forall₂_same.2 fun _ _ => rfl, (StableSort.sort_perm _ _).symm⟩
  | set assignments => exact ⟨out, mapM_eq_ok_iff.1 h, .refl out⟩
  | unset names => exact ⟨out, mapM_eq_ok_iff.1 h, .refl out⟩

theorem Stage.exists_run_eq_ok_iff {stage : Stage} {documents : List Value} :
    (∃ out, stage.run documents = .ok out) ↔ ∀ d ∈ documents, ∃ r, stage.applyTo d = .ok r := by
  cases stage with
  | sort keys => exact ⟨fun _ d _ => ⟨d, rfl⟩, fun _ => ⟨_, rfl⟩⟩
  | set assignments => exact exists_mapM_eq_ok_iff
  | unset names => exact exists_mapM_eq_ok_iff

namespace Pipeline

def applyTo (document : Value) (p : Pipeline) : Except RunFault Value :=
  p.stages.foldlM Stage.applyTo document

theorem applyTo_cons_eq_ok_iff {stage : Stage} {rest : List Stage} {document result : Value} :
    Pipeline.applyTo document ⟨stage :: rest⟩ = .ok result ↔
      ∃ middle, stage.applyTo document = .ok middle ∧
        Pipeline.applyTo middle ⟨rest⟩ = .ok result := by
  rw [applyTo, List.foldlM_cons]
  cases stage.applyTo document <;> simp [applyTo, bind, Except.bind]

theorem run_perm {p : Pipeline} {documents out : List Value} (h : p.run documents = .ok out) :
    ∃ results, List.Forall₂ (fun d r => p.applyTo d = .ok r) documents results ∧
      results.Perm out := by
  obtain ⟨stages⟩ := p
  induction stages generalizing documents with
  | nil =>
    cases h
    exact ⟨out, List.forall₂_same.2 fun _ _ => rfl, .refl out⟩
  | cons stage rest ih =>
    rw [run, List.foldlM_cons] at h
    cases hstage : stage.run documents with
    | error fault => simp [hstage, bind, Except.bind] at h
    | ok middle =>
      rw [hstage] at h
      obtain ⟨staged, hstaged, hmiddle⟩ := Stage.run_perm hstage
      obtain ⟨finished, hfinished, hout⟩ := ih h
      -- The rest ran on the permuted documents; it does the same on them in their old order.
      obtain ⟨results, hresults, hperm⟩ := List.perm_comp_forall₂ hmiddle hfinished
      refine ⟨results, forall₂_trans ?_ hstaged hresults, hperm.trans hout⟩
      intro d m r hd hm
      exact applyTo_cons_eq_ok_iff.2 ⟨m, hd, hm⟩

theorem exists_run_eq_ok_iff {p : Pipeline} {documents : List Value} :
    (∃ out, p.run documents = .ok out) ↔ ∀ d ∈ documents, ∃ r, p.applyTo d = .ok r := by
  constructor
  · rintro ⟨out, h⟩
    obtain ⟨results, hresults, -⟩ := run_perm h
    exact exists_mapM_eq_ok_iff.1 ⟨results, mapM_eq_ok_iff.2 hresults⟩
  · obtain ⟨stages⟩ := p
    induction stages generalizing documents with
    | nil => exact fun _ => ⟨documents, rfl⟩
    | cons stage rest ih =>
      intro h
      obtain ⟨middle, hstage⟩ : ∃ middle, stage.run documents = .ok middle := by
        refine Stage.exists_run_eq_ok_iff.2 fun d hd => ?_
        obtain ⟨r, hr⟩ := h d hd
        obtain ⟨m, hm, -⟩ := applyTo_cons_eq_ok_iff.1 hr
        exact ⟨m, hm⟩
      obtain ⟨staged, hstaged, hmiddle⟩ := Stage.run_perm hstage
      have hrest : ∀ m ∈ middle, ∃ r, Pipeline.applyTo m ⟨rest⟩ = .ok r := by
        intro m hm
        obtain ⟨d, hd, hdm⟩ := exists_of_forall₂ hstaged (hmiddle.mem_iff.2 hm)
        obtain ⟨r, hr⟩ := h d hd
        obtain ⟨m', hdm', hr⟩ := applyTo_cons_eq_ok_iff.1 hr
        cases hdm.symm.trans hdm'
        exact ⟨r, hr⟩
      rw [run, List.foldlM_cons, hstage]
      exact ih hrest

theorem perm_of_run_perm {p : Pipeline} {documents permuted out out' : List Value}
    (hperm : permuted.Perm documents) (h : p.run documents = .ok out)
    (h' : p.run permuted = .ok out') : out'.Perm out := by
  obtain ⟨results, hresults, hout⟩ := run_perm h
  obtain ⟨results', hresults', hout'⟩ := run_perm h'
  obtain ⟨reordered, hreordered, hsame⟩ := List.perm_comp_forall₂ hperm hresults
  have heq : results' = reordered :=
    Except.ok.inj ((mapM_eq_ok_iff.2 hresults').symm.trans (mapM_eq_ok_iff.2 hreordered))
  exact hout'.symm.trans ((heq ▸ hsame).trans hout)

/-- A batch runs through exactly if each of its documents does alone, and then gives what each of
them gives alone, in some order. So the batch may come in any order. -/
theorem run_eq_alone (p : Pipeline) (documents : List Value) :
    ((∃ out, p.run documents = .ok out) ↔ ∀ d ∈ documents, ∃ r, p.applyTo d = .ok r) ∧
    (∀ out, p.run documents = .ok out →
      ∃ results, List.Forall₂ (fun d r => p.applyTo d = .ok r) documents results ∧
        out.Perm results) ∧
    ∀ permuted, permuted.Perm documents →
      ((∃ out, p.run permuted = .ok out) ↔ ∃ out, p.run documents = .ok out) ∧
      ∀ out out', p.run documents = .ok out → p.run permuted = .ok out' → out'.Perm out := by
  refine ⟨exists_run_eq_ok_iff, fun out h => ?_, fun permuted hperm => ⟨?_, fun out out' => ?_⟩⟩
  · obtain ⟨results, hresults, hout⟩ := run_perm h
    exact ⟨results, hresults, hout.symm⟩
  · simp only [exists_run_eq_ok_iff, hperm.mem_iff]
  · exact perm_of_run_perm hperm

end Pipeline

end SortPipeline
