import ModelSync.Auth.Candidate
import ModelSync.Proofs.StableSort
/-!
The order in which a subscription tries the candidates of a model's rules.

Each rule yields a candidate, the type that satisfies it and its strategy
(`Candidate.ofRule`). The rules are sorted stably by the rank of their
strategy, and of repeated candidates the first is kept: the library's
deduplication is the standard one that keeps first occurrences
(`Candidate.dedup_nil`). That order is pinned down by four properties
(`Candidate.RuleOrder`): every candidate of a rule, each once, ranks never
decreasing, and within one strategy the order in which the rules first give
each candidate. A list with these properties is the library's list and no
other (`Candidate.ruleOrder_iff`).

A cursor over the candidates yields them one by one and has another exactly
while some are left (`CandidateCursor.skip`). Main statement:
`Candidate.ofRules_spec`.
-/
namespace ModelSync

/-! ## Keeping first occurrences -/

section FirstOccurrences

variable {α : Type} [BEq α]

theorem List.eraseDups_sublist : ∀ l : List α, l.eraseDups.Sublist l
  | [] => List.Sublist.slnil
  | a :: rest => by
    rw [List.eraseDups_cons]
    exact ((eraseDups_sublist _).trans List.filter_sublist).cons_cons a
termination_by l => l.length
decreasing_by simpa using Nat.lt_succ_of_le (List.length_filter_le _ rest)

variable [LawfulBEq α]

theorem List.nodup_eraseDups : ∀ l : List α, l.eraseDups.Nodup
  | [] => List.nodup_nil
  | a :: rest => by
    rw [List.eraseDups_cons]
    exact List.nodup_cons.mpr ⟨by simp, nodup_eraseDups _⟩
termination_by l => l.length
decreasing_by simpa using Nat.lt_succ_of_le (List.length_filter_le _ rest)

/-- Keeping first occurrences commutes with keeping the elements of a class. -/
theorem List.filter_eraseDups (p : α → Bool) : ∀ l : List α, l.eraseDups.filter p = (l.filter p).eraseDups
  | [] => rfl
  | a :: rest => by
    rw [List.eraseDups_cons, List.filter_cons]
    by_cases kept : p a = true
    · rw [if_pos kept, List.filter_cons_of_pos kept, List.eraseDups_cons, filter_eraseDups p _,
        List.filter_filter, List.filter_filter]
      simp only [Bool.and_comm]
    · -- the elements `p` keeps differ from `a`, so removing `a` first changes nothing
      rw [if_neg kept, List.filter_cons_of_neg kept, filter_eraseDups p _, List.filter_filter]
      congr 1
      refine List.filter_congr fun b _ => ?_
      by_cases same : b = a
      · subst same
        simp [kept]
      · simp [same]
termination_by l => l.length
decreasing_by all_goals simpa using Nat.lt_succ_of_le (List.length_filter_le _ rest)

end FirstOccurrences

/-! ## The candidates of a model's rules -/

namespace Candidate

/-- The candidate a rule yields: the type that satisfies it and its strategy. -/
def ofRule (rule : AuthRule) : Candidate := ⟨AuthType.forRule rule, rule.strategy⟩

@[simp] theorem strategy_ofRule (rule : AuthRule) : (ofRule rule).strategy = rule.strategy := rfl

theorem priority_inj {s t : AuthStrategy} : priority s = priority t ↔ s = t := by
  cases s <;> cases t <;> simp [priority]

/-- The rank of a candidate: the rank of its strategy. -/
abbrev rank (c : Candidate) : Nat := priority c.strategy

/-- Candidates of one rank are the candidates of one strategy. -/
theorem filter_rank_priority (l : List Candidate) (s : AuthStrategy) :
    l.filter (rank · == priority s) = l.filter (·.strategy == s) := by
  refine List.filter_congr fun c _ => ?_
  simp [rank, priority_inj]

/-- The deduplication keeps the first of repeated candidates: after the
candidates already `seen`, it lists the first occurrence of each new one. -/
theorem dedup_eq (seen rest : List Candidate) :
    dedup seen rest = seen.reverse ++ (rest.filter fun c => !seen.contains c).eraseDups := by
  induction rest generalizing seen with
  | nil => simp [dedup]
  | cons c rest ih =>
    by_cases known : seen.contains c = true
    · rw [dedup, if_pos known, ih, List.filter_cons_of_neg (by simpa using known)]
    · rw [dedup, if_neg known, ih, List.filter_cons_of_pos (by simpa using known),
        List.eraseDups_cons, List.filter_filter]
      simp only [List.reverse_cons, List.append_assoc, List.singleton_append, List.contains_cons,
        Bool.not_or]

theorem dedup_nil (rest : List Candidate) : dedup [] rest = rest.eraseDups := by
  simp [dedup_eq]

/-- The candidates of `rules` in the order of the rules sorted by rank, the
first of repeated ones kept. -/
theorem ofRules_eq (rules : List AuthRule) :
    ofRules rules = ((rules.mergeSort fun a b => priority a.strategy ≤ priority b.strategy).map ofRule).eraseDups :=
  dedup_nil _

/-- How the candidates of `rules` are ordered: the candidate of every rule,
each once, more specific strategies first, and within one strategy in the
order in which the rules first give each candidate. -/
structure RuleOrder (rules : List AuthRule) (cs : List Candidate) : Prop where
  nodup : cs.Nodup
  ascending : cs.Pairwise fun a b => priority a.strategy ≤ priority b.strategy
  derived : ∀ c, c ∈ cs ↔ ∃ rule ∈ rules, ofRule rule = c
  firstOccurrence : ∀ s, cs.filter (·.strategy == s) = ((rules.filter (·.strategy == s)).map ofRule).eraseDups

theorem ruleOrder_ofRules (rules : List AuthRule) : RuleOrder rules (ofRules rules) := by
  have sorted := List.pairwise_mergeSort_key (fun rule : AuthRule => priority rule.strategy) rules
  rw [ofRules_eq]
  refine ⟨List.nodup_eraseDups _, ?_, fun c => ?_, fun s => ?_⟩
  · exact List.Pairwise.sublist (List.eraseDups_sublist _) (List.pairwise_map.mpr sorted)
  · simp [List.mem_mergeSort]
  · -- within a strategy, sorting changed nothing
    have byRank : ∀ l : List AuthRule, l.filter (fun rule => (ofRule rule).strategy == s) =
        l.filter (fun rule => priority rule.strategy == priority s) :=
      fun l => List.filter_congr fun rule _ => by simp [priority_inj]
    rw [List.filter_eraseDups, List.filter_map]
    change ((List.filter (fun rule => (ofRule rule).strategy == s) _).map ofRule).eraseDups = _
    rw [byRank, List.filter_mergeSort_key (fun rule : AuthRule => priority rule.strategy), ← byRank]
    rfl

/-- The rule order of `rules` is the library's candidate list and no other. -/
theorem ruleOrder_iff {rules : List AuthRule} {cs : List Candidate} : RuleOrder rules cs ↔ cs = ofRules rules := by
  constructor
  · intro order
    have library := ruleOrder_ofRules rules
    refine List.eq_of_filter_key_eq order.ascending library.ascending fun k => ?_
    by_cases ranked : ∃ s, priority s = k
    · obtain ⟨s, rfl⟩ := ranked
      rw [filter_rank_priority, filter_rank_priority, order.firstOccurrence, library.firstOccurrence]
    · -- no candidate has a rank that no strategy has
      have none : ∀ l : List Candidate, l.filter (rank · == k) = [] :=
        fun l => List.filter_eq_nil_iff.mpr fun c _ => by simpa [rank] using fun h => ranked ⟨_, h⟩
      rw [none, none]
  · rintro rfl
    exact ruleOrder_ofRules rules

end Candidate

/-! ## Walking the candidates -/

namespace CandidateCursor

/-- The cursor after `k` items were taken, or where it ran out. -/
def skip : Nat → CandidateCursor → CandidateCursor
  | 0, cursor => cursor
  | k + 1, cursor =>
    match cursor.next with
    | some (_, rest) => skip k rest
    | none => cursor

theorem skip_ruleDerived (k : Nat) (items : List (Except CandidateError Candidate)) :
    (ruleDerived items).skip k = ruleDerived (items.drop k) := by
  induction k generalizing items with
  | zero => rfl
  | succ k ih =>
    cases items with
    | nil => rfl
    | cons item rest => simp [skip, next, ih]

/-- A cursor over a list of items has another after `k` were taken exactly
while `k` is below their number, and the next is the `k`-th. -/
theorem skip_ruleDerived_next (k : Nat) (items : List (Except CandidateError Candidate)) :
    ((ruleDerived items).skip k).hasNext = decide (k < items.length) ∧
      ((ruleDerived items).skip k).next.map Prod.fst =
        items[k]?.map (Except.map fun c => ⟨c.authType, c.isOwner⟩) := by
  rw [skip_ruleDerived]
  constructor
  · have empty : (items.drop k).isEmpty = decide (items.length ≤ k) := by
      rw [Bool.eq_iff_iff, List.isEmpty_iff, List.drop_eq_nil_iff, decide_eq_true_iff]
    simp only [hasNext, empty, ← decide_not, Nat.not_le]
  · cases after : items.drop k with
    | nil =>
      have : items.length ≤ k := by simpa using after
      simp [next, List.getElem?_eq_none this]
    | cons item rest =>
      have : items[k]? = some item := by
        rw [← List.head?_drop, after]
        rfl
      simp [next, this]

end CandidateCursor

namespace Candidate

/-- The candidates of a model's rules. The source holds them all without a
failure; they are the rules' candidates sorted stably by the rank of their
strategy, owner before group before signed-in before everyone before custom,
the first of repeated `(type, strategy)` pairs kept. They are the one list
with every rule's candidate once, ascending ranks, and within a strategy the
order of first occurrence among the rules. Walking them, another remains
exactly while fewer than all were taken, and each step yields the next one. -/
theorem ofRules_spec (rules : List AuthRule) :
    CandidateSource.ofRules rules = .ruleDerived ((ofRules rules).map .ok) ∧
    ofRules rules =
      ((rules.mergeSort fun a b => priority a.strategy ≤ priority b.strategy).map ofRule).eraseDups ∧
    (∀ cs, RuleOrder rules cs ↔ cs = ofRules rules) ∧
    ∀ k, ((CandidateCursor.ofSource (CandidateSource.ofRules rules)).skip k).hasNext =
        decide (k < (ofRules rules).length) ∧
      ((CandidateCursor.ofSource (CandidateSource.ofRules rules)).skip k).next.map Prod.fst =
        (ofRules rules)[k]?.map fun c => .ok ⟨c.authType, c.isOwner⟩ := by
  refine ⟨rfl, ofRules_eq rules, fun cs => ruleOrder_iff, fun k => ?_⟩
  have walk := CandidateCursor.skip_ruleDerived_next k ((ofRules rules).map .ok)
  simpa [CandidateSource.ofRules, CandidateCursor.ofSource, Function.comp_def, Except.map] using walk

end Candidate
end ModelSync
