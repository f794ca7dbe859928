import Dimensional.Docs.Program

/-!
Looking for a port to listen at.  A search goes up from the first port for as long as it finds ports
in use.  So a port has its turn exactly if all those in reach below it are in use, and the first one
that is not in use decides how the search ends.
-/

namespace Dimensional.Docs

namespace Port

/-- A port that may be tried: at most `more` above the first one, and not beyond the last port that
there is. -/
structure InReach (more port p : Nat) : Prop where
  low : port ≤ p
  high : p ≤ min (port + more) max

/-- A port that has its turn, because those in reach below it are all in use. -/
structure Reached (attempt : Nat → Attempt) (more port p : Nat) : Prop
    extends InReach more port p where
  busy : ∀ q, port ≤ q → q < p → attempt q = .inUse

/-- How a search ends. -/
inductive Ends (attempt : Nat → Attempt) (more port : Nat) : Except Miss Nat → Prop
  | listening {p : Nat} (reached : Reached attempt more port p) (free : attempt p = .listening) :
      Ends attempt more port (.ok p)
  | refused {p : Nat} {cause : String} (reached : Reached attempt more port p)
      (failed : attempt p = .refused cause) : Ends attempt more port (.error (.refused p cause))
  | exhausted (busy : ∀ p, InReach more port p → attempt p = .inUse) :
      Ends attempt more port (.error .allInUse)

section Reach

variable {attempt : Nat → Attempt} {more port p q : Nat}

theorem not_inReach (beyond : max < port) : ¬ InReach more port p := by
  rintro ⟨low, high⟩
  omega

theorem inReach_zero_iff (within : port ≤ max) : InReach 0 port p ↔ p = port := by
  constructor
  · rintro ⟨low, high⟩
    omega
  · rintro rfl
    exact ⟨Nat.le_refl p, by omega⟩

theorem inReach_succ_iff (within : port ≤ max) :
    InReach (more + 1) port p ↔ p = port ∨ InReach more (port + 1) p := by
  constructor
  · rintro ⟨low, high⟩
    rcases Nat.eq_or_lt_of_le low with rfl | above
    · exact .inl rfl
    · exact .inr ⟨above, by omega⟩
  · rintro (rfl | ⟨low, high⟩)
    · exact ⟨Nat.le_refl p, by omega⟩
    · exact ⟨by omega, by omega⟩

/-- The first port has its turn in any case. -/
theorem reached_first (within : port ≤ max) : Reached attempt more port port :=
  ⟨⟨Nat.le_refl port, by omega⟩, fun _ low below => absurd below (Nat.not_lt.mpr low)⟩

theorem reached_iff_of_ne (within : port ≤ max) (stop : attempt port ≠ .inUse) :
    Reached attempt more port p ↔ p = port := by
  constructor
  · intro reached
    rcases Nat.eq_or_lt_of_le reached.low with rfl | above
    · rfl
    · exact absurd (reached.busy port (Nat.le_refl port) above) stop
  · rintro rfl
    exact reached_first within

theorem reached_zero_iff (within : port ≤ max) : Reached attempt 0 port p ↔ p = port := by
  constructor
  · exact fun reached => (inReach_zero_iff within).mp reached.toInReach
  · rintro rfl
    exact reached_first within

/-- Above a port that is in use the search goes on as one that starts there. -/
theorem reached_succ_iff (within : port ≤ max) (inUse : attempt port = .inUse) :
    Reached attempt (more + 1) port p ↔ p = port ∨ Reached attempt more (port + 1) p := by
  constructor
  · intro reached
    rcases (inReach_succ_iff within).mp reached.toInReach with first | later
    · exact .inl first
    · exact .inr ⟨later, fun q low below => reached.busy q (by omega) below⟩
  · rintro (rfl | reached)
    · exact reached_first within
    · refine ⟨(inReach_succ_iff within).mpr (.inr reached.toInReach), fun q low below => ?_⟩
      rcases Nat.eq_or_lt_of_le low with rfl | above
      · exact inUse
      · exact reached.busy q above below

/-- Only one port that has its turn is not in use. -/
theorem Reached.unique (first : Reached attempt more port p) (other : Reached attempt more port q)
    (stop : attempt p ≠ .inUse) (otherStop : attempt q ≠ .inUse) : p = q := by
  rcases Nat.lt_trichotomy p q with below | same | above
  · exact absurd (other.busy p first.low below) stop
  · exact same
  · exact absurd (first.busy q other.low above) otherStop

end Reach

section Search

variable {attempt : Nat → Attempt} {more port : Nat}

theorem Ends.later {result : Except Miss Nat} (within : port ≤ max)
    (inUse : attempt port = .inUse) (ends : Ends attempt more (port + 1) result) :
    Ends attempt (more + 1) port result := by
  cases ends with
  | listening reached free =>
      exact .listening ((reached_succ_iff within inUse).mpr (.inr reached)) free
  | refused reached failed =>
      exact .refused ((reached_succ_iff within inUse).mpr (.inr reached)) failed
  | exhausted busy =>
      refine .exhausted fun p reach => ?_
      rcases (inReach_succ_iff within).mp reach with rfl | later
      · exact inUse
      · exact busy p later

theorem Ends.unique {result other : Except Miss Nat} (ends : Ends attempt more port result)
    (otherEnds : Ends attempt more port other) : result = other := by
  cases ends with
  | listening reached free =>
      cases otherEnds with
      | listening otherReached otherFree =>
          rw [reached.unique otherReached (by simp [free]) (by simp [otherFree])]
      | refused otherReached failed =>
          obtain rfl := reached.unique otherReached (by simp [free]) (by simp [failed])
          simp [free] at failed
      | exhausted busy => simp [busy _ reached.toInReach] at free
  | refused reached failed =>
      cases otherEnds with
      | listening otherReached free =>
          obtain rfl := reached.unique otherReached (by simp [failed]) (by simp [free])
          simp [free] at failed
      | refused otherReached otherFailed =>
          obtain rfl := reached.unique otherReached (by simp [failed]) (by simp [otherFailed])
          rw [Attempt.refused.inj (failed.symm.trans otherFailed)]
      | exhausted busy => simp [busy _ reached.toInReach] at failed
  | exhausted busy =>
      cases otherEnds with
      | listening reached free => simp [busy _ reached.toInReach] at free
      | refused reached failed => simp [busy _ reached.toInReach] at failed
      | exhausted => rfl

theorem ends_ok_iff {p : Nat} :
    Ends attempt more port (.ok p) ↔ Reached attempt more port p ∧ attempt p = .listening := by
  constructor
  · intro ends
    cases ends with
    | listening reached free => exact ⟨reached, free⟩
  · rintro ⟨reached, free⟩
    exact .listening reached free

theorem ends_refused_iff {p : Nat} {cause : String} :
    Ends attempt more port (.error (.refused p cause)) ↔
      Reached attempt more port p ∧ attempt p = .refused cause := by
  constructor
  · intro ends
    cases ends with
    | refused reached failed => exact ⟨reached, failed⟩
  · rintro ⟨reached, failed⟩
    exact .refused reached failed

theorem ends_allInUse_iff :
    Ends attempt more port (.error .allInUse) ↔
      ∀ p, InReach more port p → attempt p = .inUse := by
  constructor
  · intro ends
    cases ends with
    | exhausted busy => exact busy
  · exact .exhausted

theorem ends_search : Ends attempt more port (search attempt more port).result := by
  fun_induction search attempt more port with
  | case1 more port beyond => exact .exhausted fun p reach => absurd reach (not_inReach beyond)
  | case2 more port within free => exact .listening (reached_first (Nat.not_lt.mp within)) free
  | case3 more port within cause failed =>
      exact .refused (reached_first (Nat.not_lt.mp within)) failed
  | case4 port within inUse =>
      refine .exhausted fun p reach => ?_
      rw [(inReach_zero_iff (Nat.not_lt.mp within)).mp reach, inUse]
  | case5 port within inUse more later ih => exact ih.later (Nat.not_lt.mp within) inUse

theorem result_search_eq_iff {result : Except Miss Nat} :
    (search attempt more port).result = result ↔ Ends attempt more port result :=
  ⟨fun same => same ▸ ends_search, ends_search.unique⟩

theorem entry_eq_iff {p : Nat} {outcome found : Attempt} (first : attempt port = found) :
    (p, outcome) = (port, found) ↔ p = port ∧ outcome = attempt p := by
  rw [Prod.mk.injEq]
  constructor
  · rintro ⟨rfl, rfl⟩
    exact ⟨rfl, first.symm⟩
  · rintro ⟨rfl, rfl⟩
    exact ⟨rfl, first⟩

/-- The ports that are tried are those that have their turn. -/
theorem mem_tried_search_iff {p : Nat} {outcome : Attempt} :
    (p, outcome) ∈ (search attempt more port).tried ↔
      Reached attempt more port p ∧ outcome = attempt p := by
  fun_induction search attempt more port with
  | case1 more port beyond =>
      exact iff_of_false List.not_mem_nil fun h => not_inReach beyond h.1.toInReach
  | case2 more port within free =>
      rw [reached_iff_of_ne (Nat.not_lt.mp within) (by simp [free]), List.mem_singleton,
        entry_eq_iff free]
  | case3 more port within cause failed =>
      rw [reached_iff_of_ne (Nat.not_lt.mp within) (by simp [failed]), List.mem_singleton,
        entry_eq_iff failed]
  | case4 port within inUse =>
      rw [reached_zero_iff (Nat.not_lt.mp within), List.mem_singleton, entry_eq_iff inUse]
  | case5 port within inUse more later ih =>
      rw [List.mem_cons, ih, reached_succ_iff (Nat.not_lt.mp within) inUse, or_and_right,
        entry_eq_iff inUse]

theorem pairwise_tried_search :
    ((search attempt more port).tried.map (·.1)).Pairwise (· < ·) := by
  fun_induction search attempt more port with
  | case1 => exact .nil
  | case2 => exact List.pairwise_singleton _ _
  | case3 => exact List.pairwise_singleton _ _
  | case4 => exact List.pairwise_singleton _ _
  | case5 port within inUse more later ih =>
      refine List.pairwise_cons.mpr ⟨fun p mem => ?_, ih⟩
      obtain ⟨⟨p, outcome⟩, tried, rfl⟩ := List.mem_map.mp mem
      exact (mem_tried_search_iff.mp tried).1.low

-- Nothing is tried beyond the last port.
example : ((search (fun _ => .inUse) 9 65534).tried.map (·.1)) = [65534, 65535] := by decide

/-- A port that has not its turn makes no difference. -/
theorem search_congr {other : Nat → Attempt}
    (same : ∀ p, Reached attempt more port p → other p = attempt p) :
    search other more port = search attempt more port := by
  fun_induction search attempt more port with
  | case1 more port beyond => rw [search.eq_def, if_pos beyond]
  | case2 more port within free =>
      have first := same port (reached_first (Nat.not_lt.mp within))
      rw [search.eq_def, if_neg within, first, free]
  | case3 more port within cause failed =>
      have first := same port (reached_first (Nat.not_lt.mp within))
      rw [search.eq_def, if_neg within, first, failed]
  | case4 port within inUse =>
      have first := same port (reached_first (Nat.not_lt.mp within))
      rw [search.eq_def, if_neg within, first, inUse]
  | case5 port within inUse more later ih =>
      have first := same port (reached_first (Nat.not_lt.mp within))
      have behind := ih fun p reached =>
        same p ((reached_succ_iff (Nat.not_lt.mp within) inUse).mpr (.inr reached))
      rw [search.eq_def, if_neg within, first, inUse]
      simp only [behind]
      rfl

end Search

end Port

namespace Server

open Port (Attempt InReach Miss Reached search)

section Outcome

variable (host : String) (port increments : Nat)

/-- What a search comes to for the server. -/
def outcome : Except Miss Nat → Except Problem Nat
  | .ok p => .ok p
  | .error (.refused p cause) => .error (.refused host p cause)
  | .error .allInUse => .error (.noFreePort increments port)

variable {host port increments} {result : Except Miss Nat} {p : Nat} {cause : String}

theorem outcome_eq_ok_iff : outcome host port increments result = .ok p ↔ result = .ok p := by
  rcases result with (_ | _) | _ <;> simp [outcome]

theorem outcome_eq_refused_iff :
    outcome host port increments result = .error (.refused host p cause) ↔
      result = .error (.refused p cause) := by
  rcases result with (_ | _) | _ <;> simp [outcome]

theorem outcome_eq_noFreePort_iff :
    outcome host port increments result = .error (.noFreePort increments port) ↔
      result = .error .allInUse := by
  rcases result with (_ | _) | _ <;> simp [outcome]

theorem cases_of_outcome_eq_error {problem : Problem}
    (h : outcome host port increments result = .error problem) :
    (∃ p cause, problem = .refused host p cause) ∨ problem = .noFreePort increments port := by
  rcases result with (_ | _) | _
  · exact .inl ⟨_, _, (Except.error.inj h).symm⟩
  · exact .inr (Except.error.inj h).symm
  · contradiction

end Outcome

variable (portText : PortText) (attempt : Nat → Attempt) (host : String) (port increments : Nat)

theorem fst_bind : (bind portText attempt host port increments).1 =
    outcome host port increments (search attempt increments port).result := by
  rw [bind]
  split
  · rename_i found
    rw [found]
    rfl
  · rename_i failed
    rw [failed]
    rfl
  · rename_i failed
    rw [failed]
    rfl

/-- The lowest port that is not in use decides, and no port is tried that has not its turn. -/
structure BindsLowest : Prop where
  bound : ∀ p, (bind portText attempt host port increments).1 = .ok p ↔
    Reached attempt increments port p ∧ attempt p = .listening
  refused : ∀ p cause,
    (bind portText attempt host port increments).1 = .error (.refused host p cause) ↔
      Reached attempt increments port p ∧ attempt p = .refused cause
  exhausted :
    (bind portText attempt host port increments).1 = .error (.noFreePort increments port) ↔
      ∀ p, InReach increments port p → attempt p = .inUse
  otherwise : ∀ problem, (bind portText attempt host port increments).1 = .error problem →
    (∃ p cause, problem = .refused host p cause) ∨ problem = .noFreePort increments port
  tried : ∀ p found, (p, found) ∈ (search attempt increments port).tried ↔
    Reached attempt increments port p ∧ found = attempt p
  ascending : ((search attempt increments port).tried.map (·.1)).Pairwise (· < ·)
  blind : ∀ other : Nat → Attempt,
    (∀ p, Reached attempt increments port p → other p = attempt p) →
      bind portText other host port increments = bind portText attempt host port increments

theorem bind_lowest : BindsLowest portText attempt host port increments where
  bound p := by
    rw [fst_bind, outcome_eq_ok_iff, Port.result_search_eq_iff, Port.ends_ok_iff]
  refused p cause := by
    rw [fst_bind, outcome_eq_refused_iff, Port.result_search_eq_iff, Port.ends_refused_iff]
  exhausted := by
    rw [fst_bind, outcome_eq_noFreePort_iff, Port.result_search_eq_iff, Port.ends_allInUse_iff]
  otherwise problem failed := by
    rw [fst_bind] at failed
    exact cases_of_outcome_eq_error failed
  tried p found := Port.mem_tried_search_iff
  ascending := Port.pairwise_tried_search
  blind other same := by
    rw [bind, bind, Port.search_congr same]

end Server

end Dimensional.Docs
