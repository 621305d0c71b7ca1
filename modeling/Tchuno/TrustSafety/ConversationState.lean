import Tchuno.TrustSafety.Interventions

/-!
# What a chat shows and what it enforces

A block in force is shown if it is among the five newest interventions of the user.  A
block which is shown is in force, or has expired; then it does not claim to be blocking.
-/

namespace Tchuno.TrustSafety

open Tchuno.Library Tchuno.Payments

/-! ## Blocks have an end -/

/-- Every temporary block ends at some time. -/
def BlocksEnd (interventions : Table Intervention) : Prop :=
  ∀ intervention ∈ interventions, intervention.action = .tempBlock →
    intervention.blockedUntil.isSome

section Operations

variable {interventions : Table Intervention} {localeString : Time → String}

theorem blocksEnd_insert (blocksEnd : BlocksEnd interventions)
    (make : InterventionId → Intervention) (keyed : ∀ id, Keyed.key (make id) = id)
    (ends : ∀ id, (make id).action = .tempBlock → (make id).blockedUntil.isSome) :
    BlocksEnd (interventions.insert make keyed) := by
  intro intervention member isBlock
  rcases Table.eq_or_mem_of_insert member with rfl | old
  · exact ends _ isBlock
  · exact blocksEnd intervention old isBlock

theorem blocksEnd_update (blocksEnd : BlocksEnd interventions) (id : InterventionId)
    (change : Intervention → Intervention)
    (keeps : ∀ intervention, Keyed.key (change intervention) = Keyed.key intervention)
    (sameAction : ∀ intervention, (change intervention).action = intervention.action)
    (ends : ∀ intervention, intervention.blockedUntil.isSome →
      (change intervention).blockedUntil.isSome) :
    BlocksEnd (interventions.update id change keeps) := by
  intro intervention member isBlock
  obtain ⟨old, oldMember, rfl⟩ := (interventions.mem_update change keeps).mp member
  split_ifs at isBlock ⊢
  · rw [sameAction] at isBlock
    exact ends old (blocksEnd old oldMember isBlock)
  · exact blocksEnd old oldMember isBlock

theorem blocksEnd_evaluate (blocksEnd : BlocksEnd interventions) (input : EvaluateMessageInput)
    (now : Time) :
    BlocksEnd (evaluateMessageAttempt localeString input now interventions).2 := by
  unfold evaluateMessageAttempt
  split
  · exact blocksEnd
  · split
    · exact blocksEnd
    · split
      · exact blocksEnd
      · next detection _ =>
          dsimp only
          split_ifs
          · apply blocksEnd_insert blocksEnd (loggedWarning input detection now) (fun _ => rfl)
            intro id isBlock
            cases isBlock
          · exact blocksEnd_insert blocksEnd (openedBlock input detection _ now) (fun _ => rfl)
              fun _ _ => rfl

theorem blocksEnd_perform (blocksEnd : BlocksEnd interventions)
    (operation : InterventionOperation) :
    BlocksEnd ((moderation localeString).step interventions operation) := by
  cases operation with
  | evaluateMessageAttempt input now =>
      exact blocksEnd_evaluate blocksEnd input now
  | appealIntervention interventionId userId reason now =>
      simp only [moderation, InterventionOperation.perform, appealIntervention]
      split
      · exact blocksEnd
      · exact blocksEnd_update blocksEnd _ (appealedIntervention reason now) (fun _ => rfl)
          (fun _ => rfl) fun _ ends => ends
  | reviewIntervention interventionId reviewerUserId dto now =>
      simp only [moderation, InterventionOperation.perform, reviewIntervention]
      split
      · exact blocksEnd
      · refine blocksEnd_update blocksEnd _ (reviewedIntervention reviewerUserId dto now)
          (fun _ => rfl) (fun _ => rfl) fun old ends => ?_
        simp only [reviewedIntervention]
        split_ifs
        · rfl
        · exact ends
        · rfl
  | cascade goes =>
      intro intervention member isBlock
      exact blocksEnd intervention (interventions.mem_deleteMany.mp member).1 isBlock

theorem reachable_blocksEnd
    (reachable : (moderation localeString).Reachable (· = .empty) interventions) :
    BlocksEnd interventions := by
  refine @Machine.Reachable.invariant _ _ (moderation localeString) (· = .empty) BlocksEnd ?_
    (fun _ operation blocksEnd => blocksEnd_perform blocksEnd operation) _ reachable
  intro start isEmpty intervention member
  rw [isEmpty] at member
  exact absurd member (Table.not_mem_empty intervention)

end Operations

/-! ## Shown and enforced -/

section State

variable {interventions : Table Intervention} {jobId : JobId} {userId : UserId} {now : Time}

theorem mem_historyOf {intervention : Intervention} :
    intervention ∈ historyOf jobId userId interventions ↔
      intervention ∈ interventions ∧ intervention.isOf jobId userId = true := by
  rw [historyOf, List.mem_insertionSort]
  exact List.mem_filter

theorem activeRestriction?_isSome :
    (activeRestriction? jobId userId now interventions).isSome ↔
      ∃ intervention ∈ interventions, intervention.restricts jobId userId now = true := by
  rw [activeRestriction?, List.isSome_head?]
  constructor
  · intro some
    obtain ⟨intervention, sorted⟩ := List.exists_mem_of_ne_nil _ some
    exact ⟨intervention, List.mem_filter.mp ((List.mem_insertionSort _).mp sorted)⟩
  · rintro ⟨intervention, stored, restricts⟩
    exact List.ne_nil_of_mem ((List.mem_insertionSort _).mpr
      (List.mem_filter.mpr ⟨stored, restricts⟩))

/-- An unflagged message in a locked chat is blocked exactly by a block in force. -/
theorem evaluate_isBlocked {localeString : Time → String} {input : EvaluateMessageInput}
    (locked : input.contactUnlocked = false)
    (unflagged : detectContactSharing input.content = none) :
    (evaluateMessageAttempt localeString input now interventions).1.isBlocked = true ↔
      ∃ intervention ∈ interventions,
        intervention.restricts input.jobId input.actorUserId now = true := by
  rw [← activeRestriction?_isSome, evaluateMessageAttempt, if_neg (by simp [locked])]
  cases activeRestriction? input.jobId input.actorUserId now interventions with
  | none =>
      simp [unflagged, MessageEvaluation.isBlocked]
  | some restriction =>
      simp [MessageEvaluation.isBlocked]

/-- A message in a locked chat goes through if no block is in force and it is unflagged. -/
theorem evaluate_eq_clear {localeString : Time → String} {input : EvaluateMessageInput}
    (locked : input.contactUnlocked = false) :
    (evaluateMessageAttempt localeString input now interventions).1 = .clear ↔
      (∀ intervention ∈ interventions,
        intervention.restricts input.jobId input.actorUserId now = false) ∧
        detectContactSharing input.content = none := by
  have restricted := @activeRestriction?_isSome interventions input.jobId input.actorUserId now
  rw [evaluateMessageAttempt, if_neg (by simp [locked])]
  cases active : activeRestriction? input.jobId input.actorUserId now interventions with
  | none =>
      have free : ∀ intervention ∈ interventions,
          intervention.restricts input.jobId input.actorUserId now = false := by
        intro intervention stored
        by_contra restricts
        have some := restricted.mpr ⟨intervention, stored, by simpa using restricts⟩
        rw [active] at some
        cases some
      rw [and_iff_right free]
      cases detectContactSharing input.content with
      | none =>
          simp
      | some detection =>
          dsimp only
          split_ifs <;> simp
  | some restriction =>
      rw [active] at restricted
      obtain ⟨intervention, stored, restricts⟩ := restricted.mp rfl
      simp only [reduceCtorEq, false_iff, not_and]
      intro free
      rw [free intervention stored] at restricts
      cases restricts

/-- What is shown comes from an active block of the user in the job. -/
theorem activeIntervention_eq_some {shown : InterventionResponse}
    (shows : (getConversationState jobId userId now interventions).activeIntervention =
      some shown) :
    ∃ intervention ∈ interventions, intervention.isOf jobId userId = true ∧
      intervention.isActiveBlock = true ∧ shown = toInterventionDto intervention now := by
  obtain ⟨intervention, found, rfl⟩ := Option.map_eq_some_iff.mp shows
  have recent := List.mem_of_mem_take (List.mem_of_find?_eq_some found)
  obtain ⟨stored, own⟩ := mem_historyOf.mp recent
  exact ⟨intervention, stored, own, List.find?_some found, rfl⟩

theorem activeIntervention_ne_none {intervention : Intervention}
    (recent : intervention ∈ (historyOf jobId userId interventions).take 5)
    (active : intervention.isActiveBlock = true) :
    (getConversationState jobId userId now interventions).activeIntervention ≠ none := by
  intro hidden
  have none := List.find?_eq_none.mp (Option.map_eq_none_iff.mp hidden) intervention recent
  exact none active

end State

/-- What a chat shows is in force or has expired, and what is in force is shown if it is
among the five newest interventions. -/
theorem chat_shows_blocks (localeString : Time → String) (interventions : Table Intervention)
    (reachable : (moderation localeString).Reachable (· = .empty) interventions)
    (input : EvaluateMessageInput) (locked : input.contactUnlocked = false)
    (unflagged : detectContactSharing input.content = none) (now : Time) :
    (∀ shown, (getConversationState input.jobId input.actorUserId now
        interventions).activeIntervention = some shown →
      (evaluateMessageAttempt localeString input now interventions).1.isBlocked = true ∨
        shown.isBlocking = false ∧
          ∃ blockedUntil, shown.blockedUntil = some blockedUntil ∧ blockedUntil ≤ now) ∧
      ((∃ intervention ∈ (historyOf input.jobId input.actorUserId interventions).take 5,
          intervention.restricts input.jobId input.actorUserId now = true) →
        (evaluateMessageAttempt localeString input now interventions).1.isBlocked = true ∧
          (getConversationState input.jobId input.actorUserId now
            interventions).activeIntervention ≠ none) := by
  constructor
  · intro shown shows
    obtain ⟨intervention, stored, own, active, rfl⟩ := activeIntervention_eq_some shows
    by_cases unexpired : intervention.isUnexpired now = true
    · refine .inl ((evaluate_isBlocked locked unflagged).mpr ⟨intervention, stored, ?_⟩)
      simp [Intervention.restricts, own, active, unexpired]
    · have isBlock : intervention.action = .tempBlock := by
        simp only [Intervention.isActiveBlock, Bool.and_eq_true, decide_eq_true_eq] at active
        exact active.1
      have ends := reachable_blocksEnd reachable intervention stored isBlock
      obtain ⟨blockedUntil, isEnd⟩ := Option.isSome_iff_exists.mp ends
      refine .inr ⟨by simp [toInterventionDto, unexpired], blockedUntil, isEnd, ?_⟩
      simpa [Intervention.isUnexpired, isEnd] using unexpired
  · rintro ⟨intervention, recent, restricts⟩
    have stored := (mem_historyOf.mp (List.mem_of_mem_take recent)).1
    have active : intervention.isActiveBlock = true := by
      simp only [Intervention.restricts, Bool.and_eq_true] at restricts
      exact restricts.1.2
    exact ⟨(evaluate_isBlocked locked unflagged).mpr ⟨intervention, stored, restricts⟩,
      activeIntervention_ne_none recent active⟩

/-! ## A block which has expired -/

section Sample

def sampleLocaleString (time : Time) : String :=
  toString time

def sampleMessage (content : String) : EvaluateMessageInput where
  jobId := 0
  requestId := none
  actorUserId := 1
  counterpartUserId := 2
  actorRole := .provider
  contactUnlocked := false
  content := content

/-- A number is sent twice, so the second message is blocked. -/
def sampleAttempts : List InterventionOperation :=
  [.evaluateMessageAttempt (sampleMessage "+258 84 123 4567") 1000,
    .evaluateMessageAttempt (sampleMessage "+258 84 123 4567") 2000]

def sampleInterventions : Table Intervention :=
  (moderation sampleLocaleString).run .empty sampleAttempts

theorem sampleInterventions_reachable :
    (moderation sampleLocaleString).Reachable (· = .empty) sampleInterventions :=
  .next _ (.next _ (.start rfl))

/-- Five hours later the block is over, and still shown. -/
theorem expired_block_shown :
    (moderation sampleLocaleString).Reachable (· = .empty) sampleInterventions ∧
      (sampleMessage "Bom dia").contactUnlocked = false ∧
        detectContactSharing (sampleMessage "Bom dia").content = none ∧
          ¬ ((getConversationState 0 1 (hours 5) sampleInterventions).activeIntervention ≠ none ↔
            (evaluateMessageAttempt sampleLocaleString (sampleMessage "Bom dia") (hours 5)
              sampleInterventions).1.isBlocked = true) := by
  refine ⟨sampleInterventions_reachable, rfl, by decide +kernel, ?_⟩
  have shown : (getConversationState 0 1 (hours 5)
      sampleInterventions).activeIntervention.isSome = true := by decide +kernel
  have clear : (evaluateMessageAttempt sampleLocaleString (sampleMessage "Bom dia") (hours 5)
      sampleInterventions).1.isBlocked = false := by decide +kernel
  intro same
  have blocked := same.mp (Option.isSome_iff_ne_none.mp shown)
  rw [clear] at blocked
  cases blocked

/-- After two hours it is shown, and in force. -/
theorem block_shown_in_force :
    (evaluateMessageAttempt sampleLocaleString (sampleMessage "Bom dia") (hours 2)
        sampleInterventions).1.isBlocked = true ∧
      (getConversationState 0 1 (hours 2) sampleInterventions).activeIntervention ≠ none :=
  (chat_shows_blocks sampleLocaleString sampleInterventions sampleInterventions_reachable
    (sampleMessage "Bom dia") rfl (by decide +kernel) (hours 2)).2 (by decide +kernel)

end Sample

end Tchuno.TrustSafety
