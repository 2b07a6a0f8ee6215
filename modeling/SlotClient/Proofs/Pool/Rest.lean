import SlotClient.Proofs.Pool.Dealings

/-!
# Pools at rest

No call has more than one connection of a pool outside its queue at a time. So between calls a pool
has at most one connection, and this one is idle. A pool at rest that may have a connection lends
one whenever it is asked to, or fails to make it, but is never exhausted.
-/

namespace SlotClient

namespace Pool

/-- A pool with at most one connection, which is idle. -/
structure IsResting (settings : PoolSettings) (pool : Pool) : Prop where
  settings_eq : pool.settings = settings
  total_eq : pool.total = pool.idle.length
  idle_le : pool.idle.length ≤ min 1 settings.maxIdle.toNat

/-- A pool whose only connection is outside its queue. -/
structure IsEngaged (settings : PoolSettings) (pool : Pool) : Prop where
  settings_eq : pool.settings = settings
  total_eq : pool.total = 1
  idle_eq : pool.idle = []

variable {settings : PoolSettings} {pool after : Pool} {connection : Connection} {intact : Bool}
  {deeds : List Deed} {lease : Lease} {failure : Failure} {result : Except Failure Unit}

theorem isResting_create (settings : PoolSettings) (password : Option String) :
    (create settings password).IsResting settings :=
  ⟨rfl, rfl, Nat.zero_le _⟩

theorem IsResting.setPassword (resting : pool.IsResting settings) (password : Option String) :
    (pool.setPassword password).IsResting settings :=
  ⟨resting.settings_eq, resting.total_eq, resting.idle_le⟩

/-- The first connection that is idle is the only one. -/
theorem IsResting.idle_eq {rest : List Connection} (resting : pool.IsResting settings)
    (someIdle : pool.idle = connection :: rest) : rest = [] := by
  have few := resting.idle_le
  rw [someIdle, List.length_cons] at few
  apply List.eq_nil_of_length_eq_zero
  omega

/-- Without its idle connection a pool at rest is engaged. -/
theorem IsResting.isEngaged {rest : List Connection} (resting : pool.IsResting settings)
    (someIdle : pool.idle = connection :: rest) :
    IsEngaged settings { pool with idle := [] } := by
  refine ⟨resting.settings_eq, ?_, rfl⟩
  have total := resting.total_eq
  rw [someIdle, resting.idle_eq someIdle] at total
  exact total

theorem IsResting.lends_ok (resting : pool.IsResting settings)
    (lends : pool.Lends deeds (.ok lease) after) : after.IsEngaged settings := by
  cases lends with
  | reused first =>
      have whole := takeIdle?_eq_some first
      have someIdle : pool.idle = _ :: after.idle := congrArg Pool.idle whole
      have engaged := resting.isEngaged someIdle
      have none := resting.idle_eq someIdle
      rw [whole] at engaged
      exact ⟨engaged.settings_eq, engaged.total_eq, none⟩
  | opened noneIdle reserved made =>
      rcases reserve?_eq_some reserved with ⟨_, rfl⟩
      refine ⟨resting.settings_eq, ?_, noneIdle⟩
      dsimp only
      rw [resting.total_eq, noneIdle, List.length_nil]

/-- A pool without idle connections that has none at all may open one. -/
theorem IsResting.reserve?_ne_none (resting : pool.IsResting settings)
    (admits : 1 ≤ settings.maxTotal.toNat) (noneIdle : pool.idle = []) :
    pool.reserve? ≠ none := by
  have total := resting.total_eq
  rw [noneIdle, List.length_nil] at total
  have room : pool.total < pool.settings.maxTotal.toNat := by
    rw [total, resting.settings_eq]
    exact admits
  rw [reserve?, if_pos room]
  exact Option.some_ne_none _

/-- A pool at rest that may have a connection is not exhausted. -/
theorem IsResting.ne_poolExhausted (resting : pool.IsResting settings)
    (admits : 1 ≤ settings.maxTotal.toNat) (lends : pool.Lends deeds (.error failure) after) :
    failure ≠ .poolExhausted := by
  cases lends with
  | exhausted noneIdle full => exact absurd full (resting.reserve?_ne_none admits noneIdle)
  | failed noneIdle made otherwise => exact otherwise

/-- The connection that is outside the queue comes back, or is closed. -/
theorem IsEngaged.settles (engaged : pool.IsEngaged settings)
    (settles : pool.Settles connection intact deeds after) : after.IsResting settings := by
  have closed : pool.unreserve.IsResting settings := by
    refine ⟨engaged.settings_eq, ?_, ?_⟩
    · simp [unreserve, engaged.total_eq, engaged.idle_eq]
    · simp [unreserve, engaged.idle_eq]
  cases settles with
  | kept room =>
      have few : 0 < settings.maxIdle.toNat := by
        simpa [hasRoom, engaged.idle_eq, engaged.settings_eq] using room
      refine ⟨engaged.settings_eq, ?_, ?_⟩
      · simp [engaged.total_eq, engaged.idle_eq]
      · simp only [engaged.idle_eq, List.nil_append, List.length_singleton]
        omega
  | crowded full => exact closed
  | broken => exact closed

/-- Authenticating a pool takes its only connection out of the queue, or opens one if there is
none. -/
theorem IsResting.reauthenticates (resting : pool.IsResting settings)
    (reauthenticates : pool.Reauthenticates deeds result after) : after.IsResting settings := by
  cases reauthenticates with
  | unset unset => exact resting
  | probed set noneIdle probes =>
      cases probes with
      | spared lends => exact lends.noneIdle_of_error.2 ▸ resting
      | failed lends otherwise => exact lends.noneIdle_of_error.2 ▸ resting
      | passed lends settles => exact (resting.lends_ok lends).settles settles
  | asked set someIdle authenticates =>
      rcases queue : pool.idle with _ | ⟨first, rest⟩
      · contradiction
      · rw [queue, resting.idle_eq queue] at authenticates
        cases authenticates with
        | next identical settles others =>
            cases others with
            | done outcome settled => exact (resting.isEngaged queue).settles settles

end Pool

end SlotClient
