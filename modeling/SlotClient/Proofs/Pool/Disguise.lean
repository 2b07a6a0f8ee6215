import SlotClient.Pool.Basic
import SlotClient.Proofs.Network.Aspect

/-!
# Pools with other credentials

Two pools may be alike but for the name of the user and the text of the password. Whatever is done
to both, they stay so, and in an aspect that does not show what is sent it has the same result. In
an aspect that shows it the pools are equal, and all that can be said is that nothing depends on
what the aspect leaves out.
-/

namespace SlotClient

open SlotClient.Action (Agree AlikeAfter)

/-- The same pool but for the name of the user and the password. -/
structure Pool.Resemble (aspect : Aspect) (pool twin : Pool) : Prop where
  connections : pool.settings.connections.Resemble aspect twin.settings.connections
  maxIdle_eq : twin.settings.maxIdle = pool.settings.maxIdle
  maxTotal_eq : twin.settings.maxTotal = pool.settings.maxTotal
  password : aspect.Hides pool.password twin.password
  idle_eq : twin.idle = pool.idle
  total_eq : twin.total = pool.total

theorem Lease.agree_exchange {aspect : Aspect} (lease : Lease) {arguments twins : List Bytes}
    (confused : aspect.Confuses arguments twins) :
    Agree aspect Eq (lease.exchange arguments) (lease.exchange twins) :=
  (lease.connection.agree_exchange confused).bind_eq fun _ => .pure rfl

namespace Pool

variable {aspect : Aspect} {pool twin : Pool}

namespace Resemble

theorem refl (pool : Pool) : pool.Resemble aspect pool :=
  ⟨⟨rfl, .refl _⟩, rfl, rfl, .refl _, rfl, rfl⟩

/-- Where what is sent is seen, pools that resemble each other are equal. -/
theorem eq (resemble : pool.Resemble .network twin) : twin = pool := by
  rcases pool with ⟨⟨connections, maxIdle, maxTotal⟩, password, idle, total⟩
  rcases twin with ⟨⟨connections', maxIdle', maxTotal'⟩, password', idle', total'⟩
  rcases resemble with ⟨alike, maxIdle_eq, maxTotal_eq, hides, idle_eq, total_eq⟩
  cases alike.eq
  cases maxIdle_eq
  cases maxTotal_eq
  cases hides.confused rfl
  cases idle_eq
  cases total_eq
  rfl

theorem address_eq (resemble : pool.Resemble aspect twin) : twin.address = pool.address := by
  rw [address, address, resemble.connections.settings_eq]

/-- Pools that resemble each other still do if the same becomes of their queues and counts. -/
theorem withQueue (resemble : pool.Resemble aspect twin) {idle twinIdle : List Connection}
    {total twinTotal : Nat} (idle_eq : twinIdle = idle) (total_eq : twinTotal = total) :
    Resemble aspect { pool with idle, total }
      { twin with idle := twinIdle, total := twinTotal } :=
  ⟨resemble.connections, resemble.maxIdle_eq, resemble.maxTotal_eq, resemble.password, idle_eq,
    total_eq⟩

theorem unreserve (resemble : pool.Resemble aspect twin) :
    pool.unreserve.Resemble aspect twin.unreserve :=
  resemble.withQueue resemble.idle_eq (congrArg (· - 1) resemble.total_eq)

theorem setPassword (resemble : pool.Resemble aspect twin) {password other : Option String}
    (hides : aspect.Hides password other) :
    (pool.setPassword password).Resemble aspect (twin.setPassword other) :=
  ⟨resemble.connections, resemble.maxIdle_eq, resemble.maxTotal_eq, hides, resemble.idle_eq,
    resemble.total_eq⟩

theorem hasRoom_eq (resemble : pool.Resemble aspect twin) : twin.hasRoom = pool.hasRoom := by
  rw [hasRoom, hasRoom, resemble.idle_eq, resemble.maxIdle_eq]

end Resemble

/-- Of two pools that resemble each other both lend an idle connection, the same one, or neither
has any. -/
theorem Resemble.takeIdle (resemble : pool.Resemble aspect twin) :
    (pool.takeIdle? = none ∧ twin.takeIdle? = none) ∨
      ∃ connection rest twinRest, pool.takeIdle? = some (connection, rest) ∧
        twin.takeIdle? = some (connection, twinRest) ∧ rest.Resemble aspect twinRest := by
  unfold takeIdle?
  rw [resemble.idle_eq]
  rcases pool.idle with _ | ⟨connection, rest⟩
  · exact Or.inl ⟨rfl, rfl⟩
  · exact Or.inr ⟨connection, _, _, rfl, rfl, resemble.withQueue rfl resemble.total_eq⟩

theorem Resemble.reserve (resemble : pool.Resemble aspect twin) :
    (pool.reserve? = none ∧ twin.reserve? = none) ∨
      ∃ reserved twinReserved, pool.reserve? = some reserved ∧
        twin.reserve? = some twinReserved ∧ reserved.Resemble aspect twinReserved := by
  unfold reserve?
  rw [resemble.total_eq, resemble.maxTotal_eq]
  split
  · exact Or.inr ⟨_, _, rfl, rfl, resemble.withQueue resemble.idle_eq rfl⟩
  · exact Or.inl ⟨rfl, rfl⟩

theorem agree_discard (resemble : pool.Resemble aspect twin) (connection : Connection) :
    Agree aspect (Resemble aspect) (pool.discard connection) (twin.discard connection) :=
  connection.agree_close.bind_eq fun _ => .pure resemble.unreserve

theorem agree_giveBack (resemble : pool.Resemble aspect twin) (connection : Connection) :
    Agree aspect (Resemble aspect) (pool.giveBack connection) (twin.giveBack connection) := by
  unfold giveBack
  rw [resemble.hasRoom_eq, resemble.idle_eq]
  split
  · exact .pure (resemble.withQueue rfl resemble.total_eq)
  · exact agree_discard resemble connection

theorem agree_release (resemble : pool.Resemble aspect twin) (lease : Lease) :
    Agree aspect (Resemble aspect) (pool.release lease) (twin.release lease) := by
  unfold release
  rw [resemble.address_eq]
  split
  · exact agree_giveBack resemble lease.connection
  · exact (World.agree_note _).bind_eq fun _ => agree_discard resemble lease.connection

theorem agree_acquire (resemble : pool.Resemble aspect twin) :
    Agree aspect (AlikeAfter (Resemble aspect)) pool.acquire twin.acquire := by
  unfold acquire
  rcases resemble.takeIdle with
    ⟨empty, alsoEmpty⟩ | ⟨connection, rest, twinRest, first, second, alike⟩
  · rw [empty, alsoEmpty]
    rcases resemble.reserve with ⟨full, alsoFull⟩ | ⟨reserved, twinReserved, first, second, alike⟩
    · rw [full, alsoFull]
      exact .pure ⟨rfl, resemble⟩
    · rw [first, second]
      refine (Connection.agree_connect resemble.connections resemble.password).bind_eq ?_
      rintro (failure | connection)
      · exact .pure ⟨rfl, alike.unreserve⟩
      · exact .pure ⟨rfl, alike⟩
  · rw [first, second]
    exact .pure ⟨rfl, alike⟩

theorem agree_authenticateAll {password other : String} (passwords : aspect.Confuses password other)
    (connections : List Connection) (outcome : Except Failure Unit)
    (resemble : pool.Resemble aspect twin) :
    Agree aspect (AlikeAfter (Resemble aspect)) (authenticateAll password connections outcome pool)
      (authenticateAll other connections outcome twin) := by
  induction connections generalizing outcome pool twin with
  | nil => exact .pure ⟨rfl, resemble⟩
  | cons connection rest ih =>
      refine (connection.agree_authenticate resemble.connections.username passwords).bind_eq ?_
      rintro ⟨failure | accepted, used⟩
      · dsimp only
        split
        · exact (agree_discard resemble used).bind fun _ _ alike => ih _ alike
        · exact (agree_giveBack resemble used).bind fun _ _ alike => ih _ alike
      · exact (agree_giveBack resemble used).bind fun _ _ alike => ih _ alike

theorem agree_probe (resemble : pool.Resemble aspect twin) :
    Agree aspect (AlikeAfter (Resemble aspect)) pool.probe twin.probe := by
  refine (agree_acquire resemble).bind ?_
  rintro ⟨failure | lease, rest⟩ ⟨_, twinRest⟩ ⟨rfl, alike⟩
  · cases failure <;> exact .pure ⟨rfl, alike⟩
  · exact (agree_release alike lease).bind fun _ _ after => .pure ⟨rfl, after⟩

/-- How many connections are authenticated is told, which does not depend on the password. -/
theorem agree_reauthenticate (resemble : pool.Resemble aspect twin) :
    Agree aspect (AlikeAfter (Resemble aspect)) pool.reauthenticate twin.reauthenticate := by
  unfold reauthenticate
  rcases resemble.password.cases with
    ⟨absent, alsoAbsent⟩ | ⟨password, other, first, second, passwords⟩
  · rw [absent, alsoAbsent]
    exact .pure ⟨rfl, resemble⟩
  · -- The password is known by now, so the emptied pools are compared before it is put in place.
    have emptied : Resemble aspect { pool with idle := [] } { twin with idle := [] } :=
      resemble.withQueue rfl resemble.total_eq
    rw [first, second] at emptied ⊢
    rw [resemble.address_eq, resemble.idle_eq]
    refine (World.agree_note _).bind_eq fun _ => ?_
    rcases pool.idle with _ | ⟨connection, rest⟩
    · exact agree_probe resemble
    · exact agree_authenticateAll passwords _ _ emptied

end Pool

end SlotClient
