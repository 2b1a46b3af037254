import Skyline.Middleware
import Skyline.Runs

/-!
Revoking a session while renewed copies of its cookie are in circulation. A renewal
keeps the uuid of a session and moves its expiry; a revocation keeps the expiry of
the cookie that it was given, and the purge drops it by that expiry. A revocation
lasts as long as the session does when it is given the cookie that lasts longest
(`revocation_outlives`), and only then (`short_revocation_purged`).
-/
namespace Skyline.Revocation
open Skyline.Python Skyline.Effects Skyline.Runs Skyline.Session Skyline.Middleware

/-- The clock, every payload that a cookie was made of, and the revoked tokens. -/
structure World where
  clock : Int
  issued : List Payload
  revoked : RevokedTable

inductive Label
  /-- A login, a single sign-on or a switch of projects. -/
  | mint (keystoneToken region uuid : String)
  /-- A request with an issued cookie, and what it is answered on the way. -/
  | visit (cookie : Nat) (env : Env)
  /-- `revoke_token` for an issued cookie. -/
  | revoke (cookie : Nat)
  | purge
  | tick (seconds : Nat)

/-- What a step shows: the session it has revoked, if any. -/
inductive Event
  | quiet
  | revoked (uuid : String)
  deriving DecidableEq

/-- The payload that the middleware renews a cookie with, if it does. -/
def renewal (conf : Conf) (env : Env) (table : RevokedTable) (cookie : Payload) : Option Payload :=
  match (authenticate conf env (cookie.toJWTPayload conf) table).1 with
  | .ok (.ok state) => state.renewal
  | _ => none

def step (conf : Conf) (w : World) : Label → Option (Event × World)
  | .mint keystoneToken region uuid =>
    -- `uuid4` gives 32 hexadecimal digits that no session has had before
    if truthy uuid ∧ ∀ p ∈ w.issued, p.uuid ≠ uuid then
      some (.quiet, { w with issued := ⟨keystoneToken, region, expOr conf w.clock none, uuid⟩ :: w.issued })
    else none
  | .visit j env =>
    match w.issued[j]? with
    | none => none
    | some cookie =>
      if env.now = w.clock then
        some (.quiet, { w with issued := (renewal conf env w.revoked cookie).toList ++ w.issued })
      else none
  | .revoke j =>
    match w.issued[j]? with
    | none => none
    | some cookie =>
      some (.revoked cookie.uuid, { w with revoked := revokeToken w.revoked cookie.uuid cookie.exp })
  | .purge => some (.quiet, { w with revoked := purgeRevokedToken w.revoked w.clock })
  | .tick seconds => some (.quiet, { w with clock := w.clock + seconds })

/-- Sessions from a moment at which there are none. -/
def sessions (conf : Conf) (epoch : Int) : System World Label Event where
  init := ⟨epoch, [], []⟩
  step := step conf

/-- A cookie of the session that still verifies. -/
def Live (w : World) (uuid : String) (p : Payload) : Prop := p ∈ w.issued ∧ p.uuid = uuid ∧ w.clock ≤ p.exp

instance (w : World) (uuid : String) (p : Payload) : Decidable (Live w uuid p) :=
  inferInstanceAs (Decidable (_ ∧ _ ∧ _))

/-- Every session that was revoked is refused while one of its cookies verifies. -/
def RevocationHolds (past : List Event) (w : World) : Prop :=
  ∀ uuid, .revoked uuid ∈ past → (∃ p, Live w uuid p) → checkToken w.revoked uuid = true

/-- A revocation is given an expiry that no live cookie of its session outlasts by
    more than a second, or has no need to: an earlier revocation was. -/
def LastingRevocation (w : World) : Label → Prop
  | .revoke j => ∀ cookie ∈ w.issued[j]?, ∀ p ∈ w.issued, p.uuid = cookie.uuid → w.clock ≤ p.exp →
    p.exp ≤ cookie.exp + 1 ∨ ∃ r ∈ w.revoked, r.uuid = cookie.uuid ∧ p.exp ≤ r.expire + 1
  | _ => True

instance (w : World) (a : Label) : Decidable (LastingRevocation w a) :=
  match a with
  | .revoke j => inferInstanceAs (Decidable (∀ cookie ∈ w.issued[j]?, ∀ p ∈ w.issued, p.uuid = cookie.uuid →
    w.clock ≤ p.exp → p.exp ≤ cookie.exp + 1 ∨ ∃ r ∈ w.revoked, r.uuid = cookie.uuid ∧ p.exp ≤ r.expire + 1))
  | .mint .. | .visit .. | .purge | .tick _ => inferInstanceAs (Decidable True)

inductive Moves (conf : Conf) (w : World) : Label → Event → World → Prop
  | mint {keystoneToken region uuid : String} {p : Payload} : truthy uuid = true → (∀ q ∈ w.issued, q.uuid ≠ uuid) →
      p.uuid = uuid → Moves conf w (.mint keystoneToken region uuid) .quiet { w with issued := p :: w.issued }
  | idle {j : Nat} {env : Env} : Moves conf w (.visit j env) .quiet w
  /-- A renewal is of a live cookie whose session is not revoked. -/
  | renew {j : Nat} {env : Env} {cookie p : Payload} : cookie ∈ w.issued → w.clock ≤ cookie.exp →
      checkToken w.revoked cookie.uuid = false → p.uuid = orElse (some cookie.uuid) env.uuid4 →
      Moves conf w (.visit j env) .quiet { w with issued := p :: w.issued }
  | revoke {j : Nat} {cookie : Payload} : w.issued[j]? = some cookie →
      Moves conf w (.revoke j) (.revoked cookie.uuid)
        { w with revoked := revokeToken w.revoked cookie.uuid cookie.exp }
  | purge : Moves conf w .purge .quiet { w with revoked := purgeRevokedToken w.revoked w.clock }
  | tick (seconds : Nat) : Moves conf w (.tick seconds) .quiet { w with clock := w.clock + seconds }

/-- A renewal is of a cookie that verifies, has not been revoked and is known to
    Keystone; it keeps the session. -/
theorem renewal_eq_some {conf : Conf} {env : Env} {table : RevokedTable} {cookie p : Payload}
    (renewed : renewal conf env table cookie = some p) :
    env.now ≤ cookie.exp ∧ checkToken table cookie.uuid = false ∧ p.uuid = orElse (some cookie.uuid) env.uuid4 := by
  unfold renewal at renewed
  rcases ran : authenticate conf env (cookie.toJWTPayload conf) table with ⟨r, table'⟩
  rw [ran] at renewed
  split at renewed
  · next state same =>
    cases same
    obtain ⟨token, profile, parsed, _, fresh, generated, rfl⟩ := authenticate_ok ran
    rw [parseAccessToken_toJWTPayload] at parsed
    split at parsed
    · cases parsed
    · next lasting =>
      obtain rfl : cookie = token := Except.ok.inj parsed
      have uuid := congrArg Payload.uuid (generateProfile_ok generated)
      simp only [renewedPayload] at renewed
      split at renewed
      · cases renewed
        exact ⟨by omega, fresh, uuid⟩
      · cases renewed
  · cases renewed

theorem step_moves {conf : Conf} {w w' : World} {a : Label} {e : Event} (stepped : step conf w a = some (e, w')) :
    Moves conf w a e w' := by
  cases a with
  | mint keystoneToken region uuid =>
    simp only [step] at stepped
    split at stepped
    · next fresh =>
      cases stepped
      exact .mint fresh.1 fresh.2 rfl
    · cases stepped
  | visit j env =>
    simp only [step] at stepped
    split at stepped
    · cases stepped
    · next cookie there =>
      split at stepped
      · next now =>
        cases renewed : renewal conf env w.revoked cookie with
        | none =>
          rw [renewed] at stepped
          cases stepped
          exact .idle
        | some p =>
          rw [renewed] at stepped
          cases stepped
          obtain ⟨lasting, fresh, uuid⟩ := renewal_eq_some renewed
          exact .renew (List.mem_of_getElem? there) (now ▸ lasting) fresh uuid
      · cases stepped
  | revoke j =>
    simp only [step] at stepped
    split at stepped
    · cases stepped
    · next cookie there =>
      cases stepped
      exact .revoke there
  | purge =>
    cases stepped
    exact .purge
  | tick seconds =>
    cases stepped
    exact .tick seconds

/-! ## Lasting revocations -/

/-- Every live cookie of a revoked session has a row that the purge keeps as long as
    the cookie lives. -/
structure Covered (past : List Event) (w : World) : Prop where
  named : ∀ p ∈ w.issued, truthy p.uuid = true
  known : ∀ uuid, .revoked uuid ∈ past → ∃ p ∈ w.issued, p.uuid = uuid
  rows : ∀ uuid, .revoked uuid ∈ past → ∀ p, Live w uuid p →
    ∃ r ∈ w.revoked, r.uuid = uuid ∧ p.exp ≤ r.expire + 1

variable {conf : Conf} {past : List Event} {w w' : World}

theorem covered_init (epoch : Int) : Covered [] (sessions conf epoch).init :=
  ⟨by simp [sessions], by simp, by simp⟩

theorem covered_issue {p : Payload} (inv : Covered past w) (named : truthy p.uuid = true)
    (unrevoked : .revoked p.uuid ∉ past) : Covered (.quiet :: past) { w with issued := p :: w.issued } := by
  have before : ∀ uuid, Event.revoked uuid ∈ Event.quiet :: past → .revoked uuid ∈ past := by simp
  constructor
  · intro q member
    rcases List.mem_cons.mp member with rfl | old
    · exact named
    · exact inv.named q old
  · intro uuid revoked
    obtain ⟨q, member, same⟩ := inv.known uuid (before uuid revoked)
    exact ⟨q, List.mem_cons_of_mem p member, same⟩
  · rintro uuid revoked q ⟨member, same, lasting⟩
    rcases List.mem_cons.mp member with rfl | old
    · exact absurd (before uuid revoked) (same ▸ unrevoked)
    · exact inv.rows uuid (before uuid revoked) q ⟨old, same, lasting⟩

theorem covered_step {a : Label} {e : Event} (inv : Covered past w) (lasting : LastingRevocation w a)
    (moved : Moves conf w a e w') : Covered (e :: past) w' := by
  cases moved with
  | mint truth fresh same =>
    refine covered_issue inv (same ▸ truth) (fun revoked => ?_)
    obtain ⟨q, member, named⟩ := inv.known _ revoked
    exact fresh q member (named.trans same)
  | idle => exact ⟨inv.named, by simpa using inv.known, by simpa using inv.rows⟩
  | @renew j env cookie p member live fresh same =>
    have kept : p.uuid = cookie.uuid := by rw [same, orElse, if_pos (inv.named cookie member)]
    refine covered_issue inv (kept ▸ inv.named cookie member) (fun revoked => ?_)
    obtain ⟨r, row, uuid, _⟩ := inv.rows _ revoked cookie ⟨member, kept.symm, live⟩
    have found := checkToken_iff.mpr ⟨r, row, uuid.trans kept⟩
    simp [fresh] at found
  | @revoke j cookie there =>
    refine ⟨inv.named, ?_, ?_⟩
    · intro uuid revoked
      rcases List.mem_cons.mp revoked with now | before
      · cases now
        exact ⟨cookie, List.mem_of_getElem? there, rfl⟩
      · exact inv.known uuid before
    · rintro uuid revoked p ⟨member, same, live⟩
      have old : (∃ r ∈ w.revoked, r.uuid = uuid ∧ p.exp ≤ r.expire + 1) →
          ∃ r ∈ revokeToken w.revoked cookie.uuid cookie.exp, r.uuid = uuid ∧ p.exp ≤ r.expire + 1 :=
        fun ⟨r, row, rest⟩ => ⟨r, mem_revokeToken.mpr (.inl row), rest⟩
      rcases List.mem_cons.mp revoked with now | before
      · cases now
        rcases lasting cookie there p member same live with new | earlier
        · exact ⟨_, mem_revokeToken.mpr (.inr rfl), rfl, new⟩
        · exact old earlier
      · exact old (inv.rows uuid before p ⟨member, same, live⟩)
  | purge =>
    refine ⟨inv.named, by simpa using inv.known, ?_⟩
    rintro uuid revoked p ⟨member, same, live⟩
    obtain ⟨r, row, named, late⟩ := inv.rows uuid (by simpa using revoked) p ⟨member, same, live⟩
    have kept : w.clock - 1 ≤ r.expire := by
      simp only at live
      omega
    exact ⟨r, mem_purgeRevokedToken.mpr ⟨row, kept⟩, named, late⟩
  | tick seconds =>
    refine ⟨inv.named, by simpa using inv.known, ?_⟩
    rintro uuid revoked p ⟨member, same, live⟩
    refine inv.rows uuid (by simpa using revoked) p ⟨member, same, ?_⟩
    simp only at live
    omega

/-- In a run whose revocations are all lasting, a revoked session is refused for as
    long as one of its cookies verifies. -/
theorem revocation_outlives {epoch : Int} (run : (sessions conf epoch).Run LastingRevocation past w) :
    RevocationHolds past w := by
  have inv : Covered past w :=
    System.Run.invariant (covered_init epoch)
      (fun _ _ _ _ _ inv lasting stepped => covered_step inv lasting (step_moves stepped)) run
  intro uuid revoked ⟨p, live⟩
  obtain ⟨r, row, same, _⟩ := inv.rows uuid revoked p live
  exact checkToken_iff.mpr ⟨r, row, same⟩

/-- A session is revoked a minute after its login, and the table purged when its
    cookie has a second left. -/
def revokeAtOnce : List Label :=
  [.mint "keystone-token" "RegionOne" "first-uuid", .tick 60, .revoke 0, .tick 3539, .purge]

theorem revoked_at_once_outlives : checkToken [⟨"first-uuid", 3600⟩] "first-uuid" = true :=
  have run : (sessions registered 0).Run LastingRevocation
      [.quiet, .quiet, .revoked "first-uuid", .quiet, .quiet] ⟨3599, [loginSession], [⟨"first-uuid", 3600⟩]⟩ :=
    System.exec_guarded revokeAtOnce .start rfl
  revocation_outlives run "first-uuid" (by decide) ⟨loginSession, by decide⟩

/-! ## Revocations that do not last -/

/-- A revocation that does not last is purged while a cookie of its session still
    verifies. -/
theorem short_revocation_purged {epoch : Int} {j : Nat} (run : (sessions conf epoch).AnyRun past w)
    (short : ¬ LastingRevocation w (.revoke j)) :
    ∃ later w', (sessions conf epoch).AnyRun (later ++ past) w' ∧ ¬ RevocationHolds (later ++ past) w' := by
  simp only [LastingRevocation, not_forall, not_or, not_exists, not_and, exists_prop] at short
  obtain ⟨cookie, there, p, member, same, live, longer, rows⟩ := short
  let revokedWorld : World := { w with revoked := revokeToken w.revoked cookie.uuid cookie.exp }
  -- the last second of the cookie that outlasts the revocation
  let lastWorld : World := { revokedWorld with clock := w.clock + (p.exp - w.clock).toNat }
  have last : lastWorld.clock = p.exp := by
    change w.clock + ((p.exp - w.clock).toNat : Int) = p.exp
    omega
  have revokes : (sessions conf epoch).AnyRun (.revoked cookie.uuid :: past) revokedWorld :=
    .step (a := .revoke j) run trivial (by
      simp only [sessions, step, Option.mem_def.mp there]
      rfl)
  have ticks : (sessions conf epoch).AnyRun (.quiet :: .revoked cookie.uuid :: past) lastWorld :=
    .step (a := .tick (p.exp - w.clock).toNat) revokes trivial rfl
  have purges : (sessions conf epoch).AnyRun (.quiet :: .quiet :: .revoked cookie.uuid :: past)
      { lastWorld with revoked := purgeRevokedToken lastWorld.revoked lastWorld.clock } :=
    .step (a := .purge) ticks trivial rfl
  refine ⟨[.quiet, .quiet, .revoked cookie.uuid], _, purges, fun holds => ?_⟩
  have refused := holds cookie.uuid (by simp) ⟨p, member, same, Int.le_of_eq last⟩
  obtain ⟨r, row, named⟩ := checkToken_iff.mp refused
  obtain ⟨kept, late⟩ := mem_purgeRevokedToken.mp row
  rw [last] at late
  rcases mem_revokeToken.mp kept with old | rfl
  · have gone := rows r old named
    omega
  · have gone : ¬ p.exp ≤ cookie.exp + 1 := longer
    simp only at late
    omega

/-- A session is renewed half an hour before its end, and revoked by its first cookie;
    the table is purged two seconds after that cookie has expired. -/
def renewedThenRevoked : List Label :=
  [.mint "keystone-token" "RegionOne" "first-uuid", .tick 1800, .visit 0 (willing 1800 "second-uuid"), .revoke 1,
    .tick 1802, .purge]

/-- The renewed cookie verifies again. -/
theorem revocation_not_outlived :
    ¬ ∀ conf epoch past w, (sessions conf epoch).AnyRun past w → RevocationHolds past w := by
  intro always
  have executed : (sessions registered 0).exec (fun _ _ => true) ([], (sessions registered 0).init) renewedThenRevoked =
      some ([.quiet, .quiet, .revoked "first-uuid", .quiet, .quiet, .quiet],
        ⟨3602, [{ loginSession with exp := 5400 }, loginSession], []⟩) := rfl
  have refused := always _ _ _ _ (System.exec_anyRun _ .start executed) "first-uuid" (by decide)
    ⟨{ loginSession with exp := 5400 }, by decide⟩
  simp [checkToken] at refused

end Skyline.Revocation
