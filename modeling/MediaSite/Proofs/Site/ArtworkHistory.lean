import Mathlib.Data.List.Dedup
import Mathlib.Data.List.Induction
import MediaSite.Proofs.Site.ArtworkCalls

namespace MediaSite

/-!
# Histories of artwork

A history keeps the visits since the last reset next to the memory that they left.
Two things are kept by every action.  The memory holds one outcome for each key that
was asked for, the one that the first visit with the key led to.  And the calls of all
visits with a key make one picture at most, so that the count of pictures, the calls
that wrote one and the keys that were answered with artwork agree.
-/

open scoped Text
open BackendCall

/-! ## Histories -/

inductive ArtworkAction where
  | request (request : ImageRequest)
  | reset

/-- The visits since the last reset, in order, and the workspace that they left. -/
structure ArtworkHistory (σ : Type) where
  visits : List (Visit σ)
  workspace : Workspace (Artwork σ)

namespace Visit

variable {σ : Type}

def allCalls (visits : List (Visit σ)) : List (BackendCall × Bool) :=
  visits.flatMap calls

/-- The calls that requests with a key led to. -/
def callsFor (key : ArtworkKey) (visits : List (Visit σ)) : List (BackendCall × Bool) :=
  allCalls (visits.filter fun visit => visit.request.key? = some key)

/-- The first visit with a key, or the first without any. -/
def first? (key? : Option ArtworkKey) (visits : List (Visit σ)) : Option (Visit σ) :=
  visits.find? fun visit => visit.request.key? = key?

/-- The key of a visit that was answered with the artwork of the key. -/
def artwork? (visit : Visit σ) : Option ArtworkKey :=
  visit.request.key?.filter fun key => visit.answer = key.path

theorem allCalls_concat (visits : List (Visit σ)) (visit : Visit σ) :
    allCalls (visits ++ [visit]) = allCalls visits ++ visit.calls := by
  simp [allCalls]

theorem callsFor_concat (key : ArtworkKey) (visits : List (Visit σ)) (visit : Visit σ) :
    callsFor key (visits ++ [visit]) =
      callsFor key visits ++ if visit.request.key? = some key then visit.calls else [] := by
  rw [callsFor, callsFor, List.filter_append, allCalls, List.flatMap_append]
  by_cases asked : visit.request.key? = some key <;> simp [allCalls, asked]

theorem first?_concat (key? : Option ArtworkKey) (visits : List (Visit σ)) (visit : Visit σ) :
    first? key? (visits ++ [visit]) =
      (first? key? visits).or (if visit.request.key? = key? then some visit else none) := by
  rw [first?, first?, List.find?_append]
  by_cases asked : visit.request.key? = key? <;> simp [asked]

/-- The first visit with a key is before any other one. -/
theorem eq_or_of_first? {key? : Option ArtworkKey} {visits : List (Visit σ)} {first visit : Visit σ}
    (found : first? key? visits = some first) (member : visit ∈ visits)
    (asked : visit.request.key? = key?) {relation : Visit σ → Visit σ → Prop}
    (ordered : visits.Pairwise relation) : visit = first ∨ relation first visit := by
  rcases List.find?_eq_some_iff_append.mp found with ⟨_, before, after, rfl, others⟩
  rcases List.mem_append.mp member with earlier | later
  · have other := others visit earlier
    rw [decide_eq_true asked] at other
    cases other
  · rcases List.mem_cons.mp later with here | behind
    · exact .inl here
    · have tail := (List.pairwise_append.mp ordered).2.1
      exact .inr ((List.pairwise_cons.mp tail).1 visit behind)

theorem of_unasked {key : ArtworkKey} {visits : List (Visit σ)}
    (unasked : ∀ visit ∈ visits, visit.request.key? ≠ some key) :
    first? (some key) visits = none ∧ callsFor key visits = [] := by
  constructor
  · apply List.find?_eq_none.mpr
    intro visit member asked
    exact unasked visit member (of_decide_eq_true asked)
  · rw [callsFor, List.filter_eq_nil_iff.mpr]
    · rfl
    · intro visit member asked
      exact unasked visit member (of_decide_eq_true asked)

theorem of_first? {key? : Option ArtworkKey} {visits : List (Visit σ)} {first : Visit σ}
    (found : first? key? visits = some first) : first ∈ visits ∧ first.request.key? = key? := by
  refine ⟨List.mem_of_find?_eq_some found, ?_⟩
  have same := List.find?_some found
  exact of_decide_eq_true same

end Visit

namespace ArtworkHistory

variable {σ : Type} (setup : ArtworkSetup σ)

def perform (history : ArtworkHistory σ) : ArtworkAction → ArtworkHistory σ
  | .request request =>
    ⟨history.visits ++ [Artwork.visit setup request history.workspace],
      (Artwork.resolver setup request history.workspace).2⟩
  | .reset => ⟨[], { history.workspace with side := history.workspace.side.reset }⟩

/-- What has happened after these actions since the last reset among them. -/
def run (files : FileTree) (backend : σ) (actions : List ArtworkAction) : ArtworkHistory σ :=
  actions.foldl (perform setup) ⟨[], ⟨files, Artwork.fresh backend⟩⟩

/-! ## What belongs together -/

/-- The memory holds one outcome for each key that was asked for, the one of the first
visit with the key. -/
structure Recalls (history : ArtworkHistory σ) : Prop where
  distinct : (history.workspace.side.known.map Prod.fst).Nodup
  accurate : ∀ visit ∈ history.visits,
    visit.answer = (Artwork.resolver setup visit.request visit.before).1
  answered : ∀ visit ∈ history.visits, ∀ key, visit.request.key? = some key →
    ∃ outcome, (key, outcome) ∈ history.workspace.side.known ∧
      visit.answer = outcome.getD visit.request.fallback
  origin : ∀ key outcome, (key, outcome) ∈ history.workspace.side.known →
    ∃ first, Visit.first? (some key) history.visits = some first ∧
      first.before.side.known.lookup key = none ∧
      outcome = (Artwork.attempt setup first.request.entity key first.before).1

/-- The calls since the last reset make one picture at most for each key, each at a
place of its own, and the count of pictures is that of the calls that wrote one. -/
structure Accounts (history : ArtworkHistory σ) : Prop where
  unsupported : ∀ visit ∈ history.visits, visit.request.key? = none → visit.calls = []
  pictures : ∀ key, OnePicture (setup.root.join ⟨key.path⟩)
    (history.workspace.side.known.lookup key).join.isSome (Visit.callsFor key history.visits)
  written : history.workspace.side.written = (Visit.allCalls history.visits).countP isWriting
  made : history.workspace.side.written = history.workspace.side.known.countP (·.2.isSome)
  apart : ((Visit.allCalls history.visits).filterMap output?).Nodup
  places : ∀ output ∈ (Visit.allCalls history.visits).filterMap output?,
    ∃ key outcome, (key, outcome) ∈ history.workspace.side.known ∧
      output = setup.root.join ⟨key.path⟩

variable {setup} {visits : List (Visit σ)} {workspace : Workspace (Artwork σ)}

/-! ## What is remembered -/

theorem recalls_fresh (files : FileTree) (artwork : Artwork σ) (known : artwork.known = []) :
    Recalls setup ⟨[], files, artwork⟩ where
  distinct := by
    rw [known]
    exact List.nodup_nil
  accurate _ member := absurd member List.not_mem_nil
  answered _ member := absurd member List.not_mem_nil
  origin key outcome := by
    rw [known]
    intro member
    cases member

theorem Recalls.pictured {history : ArtworkHistory σ} (recalls : Recalls setup history)
    {key : ArtworkKey} {outcome : Option Text}
    (known : (key, outcome) ∈ history.workspace.side.known) : key.kind.imageDirectory? ≠ none := by
  rcases recalls.origin key outcome known with ⟨first, found, _, _⟩
  exact ImageRequest.pictured (Visit.of_first? found).2

theorem Recalls.outcome_unique {history : ArtworkHistory σ} (recalls : Recalls setup history)
    {key : ArtworkKey} {outcome other : Option Text}
    (known : (key, outcome) ∈ history.workspace.side.known)
    (alsoKnown : (key, other) ∈ history.workspace.side.known) : outcome = other :=
  congrArg Prod.snd (List.inj_on_of_nodup_map recalls.distinct known alsoKnown rfl)

/-- A key that is not remembered was not asked for. -/
theorem Recalls.unasked (recalls : Recalls setup ⟨visits, workspace⟩) {key : ArtworkKey}
    (new : workspace.side.known.lookup key = none) :
    ∀ visit ∈ visits, visit.request.key? ≠ some key := by
  intro visit member asked
  rcases recalls.answered visit member key asked with ⟨outcome, known, _⟩
  exact lookup_eq_none_iff.mp new (List.mem_map_of_mem known)

/-- A visit that is answered from memory, if it has a key. -/
theorem Recalls.again (recalls : Recalls setup ⟨visits, workspace⟩) {visit : Visit σ}
    (accurate : visit.answer = (Artwork.resolver setup visit.request visit.before).1)
    (answered : ∀ key, visit.request.key? = some key →
      ∃ outcome, (key, outcome) ∈ workspace.side.known ∧
        visit.answer = outcome.getD visit.request.fallback) :
    Recalls setup ⟨visits ++ [visit], workspace⟩ where
  distinct := recalls.distinct
  accurate := List.forall_mem_append.mpr
    ⟨recalls.accurate, List.forall_mem_singleton.mpr accurate⟩
  answered := List.forall_mem_append.mpr
    ⟨recalls.answered, List.forall_mem_singleton.mpr answered⟩
  origin key outcome known := by
    rcases recalls.origin key outcome known with ⟨first, found, same⟩
    refine ⟨first, ?_, same⟩
    rw [Visit.first?_concat, found]
    rfl

/-- A visit with a key that was not asked for since the last reset. -/
theorem Recalls.new (recalls : Recalls setup ⟨visits, workspace⟩) {request : ImageRequest}
    {key : ArtworkKey} (supported : request.key? = some key)
    (new : workspace.side.known.lookup key = none) (calls : List (BackendCall × Bool)) :
    Recalls setup
      ⟨visits ++ [⟨request, workspace, (Artwork.resolver setup request workspace).1, calls⟩],
        (Artwork.resolver setup request workspace).2⟩ := by
  have unasked := recalls.unasked new
  rcases Artwork.resolver_new_spec setup supported new with ⟨answer, known, _⟩
  constructor
  case distinct =>
    rw [known, List.map_cons, List.nodup_cons]
    exact ⟨lookup_eq_none_iff.mp new, recalls.distinct⟩
  case accurate =>
    exact List.forall_mem_append.mpr ⟨recalls.accurate, List.forall_mem_singleton.mpr rfl⟩
  case answered =>
    rw [known]
    refine List.forall_mem_append.mpr ⟨?_, List.forall_mem_singleton.mpr ?_⟩
    · intro visit member other asked
      rcases recalls.answered visit member other asked with ⟨earlier, known, same⟩
      exact ⟨earlier, List.mem_cons_of_mem _ known, same⟩
    · intro other asked
      rw [supported] at asked
      rw [← Option.some.inj asked]
      exact ⟨_, List.mem_cons_self, answer⟩
  case origin =>
    rw [known]
    intro other outcome member
    rw [Visit.first?_concat]
    rcases List.mem_cons.mp member with here | earlier
    · cases here
      refine ⟨⟨request, workspace, (Artwork.resolver setup request workspace).1, calls⟩, ?_, new,
        rfl⟩
      rw [(Visit.of_unasked unasked).1, if_pos supported]
      rfl
    · rcases recalls.origin other outcome earlier with ⟨first, found, same⟩
      refine ⟨first, ?_, same⟩
      rw [found]
      rfl

/-! ## What is called -/

theorem accounts_fresh (files : FileTree) (artwork : Artwork σ) (known : artwork.known = [])
    (written : artwork.written = 0) : Accounts setup ⟨[], files, artwork⟩ where
  unsupported _ member := absurd member List.not_mem_nil
  pictures key := by
    rw [known]
    exact onePicture_nil _
  written := written
  made := by
    rw [written, known]
    rfl
  apart := List.nodup_nil
  places _ member := absurd member List.not_mem_nil

/-- A visit that leads to no call. -/
theorem Accounts.again (accounts : Accounts setup ⟨visits, workspace⟩) {visit : Visit σ}
    (silent : visit.calls = []) : Accounts setup ⟨visits ++ [visit], workspace⟩ where
  unsupported := List.forall_mem_append.mpr
    ⟨accounts.unsupported, List.forall_mem_singleton.mpr fun _ => silent⟩
  pictures key := by
    rw [Visit.callsFor_concat, silent, ite_self, List.append_nil]
    exact accounts.pictures key
  written := by
    rw [Visit.allCalls_concat, silent, List.append_nil]
    exact accounts.written
  made := accounts.made
  apart := by
    rw [Visit.allCalls_concat, silent, List.append_nil]
    exact accounts.apart
  places := by
    rw [Visit.allCalls_concat, silent, List.append_nil]
    exact accounts.places

/-- A visit with a key that was not asked for since the last reset. -/
theorem Accounts.new (accounts : Accounts setup ⟨visits, workspace⟩)
    (recalls : Recalls setup ⟨visits, workspace⟩) {request : ImageRequest} {key : ArtworkKey}
    (supported : request.key? = some key) (new : workspace.side.known.lookup key = none)
    {calls : List (BackendCall × Bool)}
    (one : OnePicture (setup.root.join ⟨key.path⟩)
      (Artwork.attempt setup request.entity key workspace).1.isSome calls) :
    Accounts setup
      ⟨visits ++ [⟨request, workspace, (Artwork.resolver setup request workspace).1, calls⟩],
        (Artwork.resolver setup request workspace).2⟩ := by
  rcases Artwork.resolver_new_spec setup supported new with ⟨_, known, written⟩
  constructor
  case unsupported =>
    refine List.forall_mem_append.mpr ⟨accounts.unsupported, List.forall_mem_singleton.mpr ?_⟩
    intro unsupported
    rw [supported] at unsupported
    cases unsupported
  case pictures =>
    intro other
    rw [known, Visit.callsFor_concat, List.lookup_cons]
    by_cases here : other = key
    -- There were no calls for this key, and there are none for the others now.
    · rw [here, (Visit.of_unasked (recalls.unasked new)).2, List.nil_append, if_pos supported,
        beq_self_eq_true]
      revert one
      cases (Artwork.attempt setup request.entity key workspace).1 <;> exact fun one => one
    · have elsewhere : request.key? ≠ some other := by
        intro asked
        rw [supported] at asked
        exact here (Option.some.inj asked).symm
      rw [if_neg elsewhere, List.append_nil, beq_eq_false_iff_ne.mpr here]
      exact accounts.pictures other
  case written =>
    rw [written, Visit.allCalls_concat, List.countP_append, one.written]
    exact congrArg (· + _) accounts.written
  case made =>
    rw [written, known, List.countP_cons]
    exact congrArg (· + _) accounts.made
  case apart =>
    rw [Visit.allCalls_concat, List.filterMap_append]
    rcases one.place with none | some
    · rw [none, List.append_nil]
      exact accounts.apart
    · rw [some, List.nodup_append]
      refine ⟨accounts.apart, List.nodup_singleton _, ?_⟩
      intro output member other here same
      rcases accounts.places output member with ⟨earlier, outcome, recorded, place⟩
      rw [place, List.mem_singleton.mp here] at same
      have sameKey := ArtworkKey.place_injective setup.root (recalls.pictured recorded)
        (ImageRequest.pictured supported) same
      exact lookup_eq_none_iff.mp new (sameKey ▸ List.mem_map_of_mem recorded)
  case places =>
    rw [known, Visit.allCalls_concat, List.filterMap_append]
    refine List.forall_mem_append.mpr ⟨?_, ?_⟩
    · intro output member
      rcases accounts.places output member with ⟨earlier, outcome, recorded, place⟩
      exact ⟨earlier, outcome, List.mem_cons_of_mem _ recorded, place⟩
    · rcases one.place with none | some
      · rw [none]
        exact fun _ member => absurd member List.not_mem_nil
      · rw [some]
        exact List.forall_mem_singleton.mpr ⟨key, _, List.mem_cons_self, rfl⟩

/-! ## Whole runs -/

-- A request is silent unless its key is new, and a reset starts over.
theorem kept_perform {history : ArtworkHistory σ} (recalls : Recalls setup history)
    (accounts : Accounts setup history) (action : ArtworkAction) :
    Recalls setup (perform setup history action) ∧
      Accounts setup (perform setup history action) := by
  cases action with
  | reset => exact ⟨recalls_fresh _ _ rfl, accounts_fresh _ _ rfl rfl⟩
  | request request =>
      rcases Artwork.resolver_watched setup request history.workspace with
        ⟨calls, watched, silent, called⟩
      rw [perform, Artwork.visit, watched]
      cases supported : request.key? with
      | none =>
          have run : Artwork.resolver setup request history.workspace = _ :=
            Artwork.resolver_of_no_key supported
          have left : (Artwork.resolver setup request history.workspace).2 = history.workspace :=
            congrArg Prod.snd run
          rw [left]
          refine ⟨recalls.again rfl ?_, accounts.again (silent supported)⟩
          intro key asked
          rw [supported] at asked
          cases asked
      | some key =>
          cases known : history.workspace.side.known.lookup key with
          | none =>
              exact ⟨recalls.new supported known calls,
                accounts.new recalls supported known ((called key supported).2 known)⟩
          | some outcome =>
              have run : Artwork.resolver setup request history.workspace = _ :=
                Artwork.resolver_of_known supported known
              have left : (Artwork.resolver setup request history.workspace).2 =
                  history.workspace := congrArg Prod.snd run
              have silent : calls = [] := by
                apply (called key supported).1
                rw [known]
                exact Option.some_ne_none outcome
              rw [left]
              refine ⟨recalls.again rfl ?_, accounts.again silent⟩
              intro other asked
              rw [supported] at asked
              rw [← Option.some.inj asked]
              exact ⟨outcome, mem_of_lookup known, congrArg Prod.fst run⟩

variable (setup) in
theorem kept_run (files : FileTree) (backend : σ) (actions : List ArtworkAction) :
    Recalls setup (run setup files backend actions) ∧
      Accounts setup (run setup files backend actions) := by
  induction actions using List.reverseRecOn with
  | nil => exact ⟨recalls_fresh _ _ rfl, accounts_fresh _ _ rfl rfl⟩
  | append_singleton actions action inductionHypothesis =>
      rw [run, List.foldl_append]
      exact kept_perform inductionHypothesis.1 inductionHypothesis.2 action

variable (setup) in
theorem request_mem_of_run (files : FileTree) (backend : σ) (actions : List ArtworkAction) :
    ∀ visit ∈ (run setup files backend actions).visits, .request visit.request ∈ actions := by
  induction actions using List.reverseRecOn with
  | nil => exact fun _ member => absurd member List.not_mem_nil
  | append_singleton actions action inductionHypothesis =>
      rw [run, List.foldl_append]
      intro visit member
      cases action with
      | reset => exact absurd member List.not_mem_nil
      | request request =>
          rcases List.mem_append.mp member with earlier | here
          · exact List.mem_append_left _ (inductionHypothesis visit earlier)
          · rw [List.mem_singleton.mp here]
            exact List.mem_append_right _ List.mem_cons_self

/-- A key is remembered with a path exactly if a visit was answered with its artwork. -/
theorem Recalls.mem_artwork {history : ArtworkHistory σ} (recalls : Recalls setup history)
    (key : ArtworkKey) :
    key ∈ history.visits.filterMap Visit.artwork? ↔
      ∃ path, (key, some path) ∈ history.workspace.side.known := by
  constructor
  · intro member
    rcases List.mem_filterMap.mp member with ⟨visit, visited, shown⟩
    rcases Option.filter_eq_some_iff.mp shown with ⟨asked, answer⟩
    rcases recalls.answered visit visited key asked with ⟨outcome, known, same⟩
    cases outcome with
    | some path => exact ⟨path, known⟩
    | none =>
        have answer := of_decide_eq_true answer
        rw [same] at answer
        exact absurd answer (ImageRequest.fallback_ne_path _ (recalls.pictured known))
  · rintro ⟨path, known⟩
    rcases recalls.origin key (some path) known with ⟨first, found, _, same⟩
    rcases Visit.of_first? found with ⟨visited, asked⟩
    rcases recalls.answered first visited key asked with ⟨outcome, alsoKnown, answer⟩
    have path := (Artwork.attempt_spec setup first.before (ImageRequest.id_eq asked)).1 path
      same.symm
    rw [recalls.outcome_unique alsoKnown known, Option.getD_some, path] at answer
    refine List.mem_filterMap.mpr ⟨first, visited, ?_⟩
    rw [Visit.artwork?, asked]
    exact Option.filter_eq_some_iff.mpr ⟨rfl, decide_eq_true answer⟩

theorem Recalls.countP_known {history : ArtworkHistory σ} (recalls : Recalls setup history) :
    history.workspace.side.known.countP (·.2.isSome) =
      (history.visits.filterMap Visit.artwork?).dedup.length := by
  have distinct : ((history.workspace.side.known.filter (·.2.isSome)).map Prod.fst).Nodup :=
    recalls.distinct.sublist (List.filter_sublist.map _)
  have same : ((history.workspace.side.known.filter (·.2.isSome)).map Prod.fst).Perm
      (history.visits.filterMap Visit.artwork?).dedup := by
    rw [List.perm_ext_iff_of_nodup distinct (List.nodup_dedup _)]
    intro key
    rw [List.mem_dedup, recalls.mem_artwork, List.mem_map]
    constructor
    · rintro ⟨⟨_, outcome⟩, member, rfl⟩
      rcases List.mem_filter.mp member with ⟨known, made⟩
      rcases Option.isSome_iff_exists.mp made with ⟨path, rfl⟩
      exact ⟨path, known⟩
    · rintro ⟨path, known⟩
      exact ⟨(key, some path), List.mem_filter.mpr ⟨known, rfl⟩, rfl⟩
  rw [List.countP_eq_length_filter, ← same.length_eq, List.length_map]

end ArtworkHistory
end MediaSite
