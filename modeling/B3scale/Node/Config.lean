/-
  b3scale formalization — how a node agent finds or registers its backend
  (`cmd/b3scalenoded/config.go`).

  * `configRegisterBackendState` inserts a row whose host is the server URL
    with the API path appended (`apiURL`);
  * `configToBackendState` takes the first row whose host `ILIKE`s the
    server URL followed by `%`, and rewrites its secret if it drifted;
  * `config_resolves_registered_row`: it returns the row a registration
    inserted, rewrites that row's secret when it drifted, and writes no
    other row, when no other host matches the pattern;
    `lookup_takes_longer_host`: a server URL that begins another one finds
    the other's row when that row was registered first.

  Both run in one transaction on a working copy of `backends`; the
  `Save(ctx, tx)` they call is not in the source and is modelled by the
  source's `Save` on that copy.
-/
import B3scale.Store.MeetingState
import B3scale.Store.Like

namespace B3scale
namespace Node

/-- `config.Properties` (its package is not in the source): what `Get`
    returns for each key. -/
structure Properties where
  get : String → Option String

def cfgWebServerURL : String := "bigbluebutton.web.serverURL"

def cfgSecret : String := "securitySalt"

def errServerURLNotInConfig : String := "bigbluebutton.web.serverURL property not found in config"

def errSecretNotInConfig : String := "securitySalt property not found in config"

/-- What Postgres answers a `LIKE` pattern that ends in `\`. -/
def errLikeEscape : String := "LIKE pattern must not end with escape character"

/-- The host `configRegisterBackendState` registers: the server URL, a `/`
    unless it ends in one, and the API path. -/
def apiURL (serverURL : String) : String :=
  (if "/".toList.isSuffixOf serverURL.toList then serverURL else serverURL ++ "/") ++
    "bigbluebutton/api/"

/-- `GetBackendState(ctx, tx, Q().Where("host ILIKE ?", pattern))`: the
    first row whose host matches. -/
def getBackendStateByHost (db : Db) (t : BackendTable) (pattern : String) :
    Except Fault (Option BackendState) :=
  match db.lookup with
  | some e => .error (.err e)
  | none =>
    match parseLike (pattern.toList.map Char.toLower) with
    | none => .error (.err errLikeEscape)
    | some ts => .ok (t.rows.find? fun r => likeMatch (r.host.toList.map Char.toLower) ts)

/-- `configRegisterBackendState`: the state and the table after the
    transaction. -/
def configRegisterBackendState (db : Db) (now : Nat) (conf : Properties) (t : BackendTable) :
    Except Fault BackendState × BackendTable :=
  match db.acquire, db.begin with
  | some e, _ | none, some e => (.error (.err e), t)
  | none, none =>
    match conf.get cfgWebServerURL, conf.get cfgSecret with
    | none, _ => (.error (.err errServerURLNotInConfig), t)
    | some _, none => (.error (.err errSecretNotInConfig), t)
    | some serverURL, some secret =>
      let state := BackendState.init
        ⟨"", "", "init", none, apiURL serverURL, secret, [], 0, none, none, none⟩
      match state.save db now t with
      | (.error e, _, _) => (.error e, t)
      | (.ok (), s, t') =>
        match db.commit with
        | some e => (.error (.err e), t)
        | none => (.ok s, t')

/-- `configToBackendState`: the state found (`none`: no row matches) and the
    table after the transaction. -/
def configToBackendState (db : Db) (now : Nat) (conf : Properties) (t : BackendTable) :
    Except Fault (Option BackendState) × BackendTable :=
  match db.acquire, db.begin with
  | some e, _ | none, some e => (.error (.err e), t)
  | none, none =>
    match conf.get cfgWebServerURL, conf.get cfgSecret with
    | none, _ => (.error (.err errServerURLNotInConfig), t)
    | some _, none => (.error (.err errSecretNotInConfig), t)
    | some serverURL, some secret =>
      match getBackendStateByHost db t (serverURL ++ "%") with
      | .error e => (.error e, t)
      | .ok none => (.ok none, t)
      | .ok (some state) =>
        if state.secret ≠ secret then
          match { state with secret := secret }.save db now t with
          | (.error e, _, _) => (.error e, t)
          | (.ok (), s, t') =>
            match db.commit with
            | some e => (.error (.err e), t)
            | none => (.ok (some s), t')
        else
          match db.commit with
          | some e => (.error (.err e), t)
          | none => (.ok (some state), t)

/-- Configurations registered one after another, each with what the
    database does during it. -/
def registerAll (now : Nat) (regs : List (Db × Properties)) (t : BackendTable) : BackendTable :=
  regs.foldl (fun t p => (configRegisterBackendState p.1 now p.2 t).2) t

/-- A server URL that begins another one finds the other's row when that
    row was registered first. -/
theorem lookup_takes_longer_host :
    ¬ ∀ (now : Nat) (regs : List (Db × Properties)) (db : Db) (i : Fin regs.length)
      (s : BackendState),
      (regs.map fun p => (p.2.get cfgWebServerURL).map fun u => u.toList.map Char.toLower).Nodup →
      (configToBackendState db now (regs.get i).2 (registerAll now regs ⟨[], List.nodup_nil⟩)).1 =
        .ok (some s) → s.id = (regs.get i).1.uuid :=
  fun h => absurd (h 1
    [({ Db.ok with uuid := "a" },
        ⟨fun k => if k = cfgWebServerURL then some "http://b10" else if k = cfgSecret then some "k"
          else none⟩),
      ({ Db.ok with uuid := "b" },
        ⟨fun k => if k = cfgWebServerURL then some "http://b1" else if k = cfgSecret then some "k"
          else none⟩)]
    Db.ok ⟨1, by decide⟩ _ (by decide) rfl) (by decide)

/-! ## Finding the registered row -/

/-- What a registration inserts and returns: a row with the API host, the
    configured secret, the creation time and the id the database drew. -/
theorem configRegisterBackendState_ok {db : Db} {now : Nat} {conf : Properties}
    {t t' : BackendTable} {s : BackendState} (h : configRegisterBackendState db now conf t = (.ok s, t')) :
    ∃ u k, conf.get cfgWebServerURL = some u ∧ conf.get cfgSecret = some k ∧
      t'.rows = t.rows ++ [s] ∧ s.host = apiURL u ∧ s.secret = k ∧ s.createdAt = some now ∧
      s.id = db.uuid := by
  unfold configRegisterBackendState at h
  rcases ha : db.acquire with _ | e <;> rcases hb : db.begin with _ | e' <;>
    simp only [ha, hb, reduceCtorEq, Prod.mk.injEq, false_and] at h
  rcases hu : conf.get cfgWebServerURL with _ | u <;> rcases hk : conf.get cfgSecret with _ | k <;>
    simp only [hu, hk, reduceCtorEq, Prod.mk.injEq, false_and] at h
  set st := BackendState.init ⟨"", "", "init", none, apiURL u, k, [], 0, none, none, none⟩
  rcases hs : st.save db now t with ⟨e | ⟨⟩, s', t''⟩ <;> simp only [hs] at h
  · simp at h
  rcases hcm : db.commit with _ | e <;> simp only [hcm, reduceCtorEq, Prod.mk.injEq, false_and] at h
  obtain ⟨⟨⟩, rfl⟩ := h
  obtain ⟨hrows, rfl⟩ := BackendState.save_new rfl hs
  exact ⟨u, k, rfl, rfl, hrows, rfl, rfl, rfl, rfl⟩

theorem apiURL_eq (u : String) : ∃ v, apiURL u = u ++ v := by
  unfold apiURL
  split_ifs
  · exact ⟨_, rfl⟩
  · exact ⟨"/" ++ "bigbluebutton/api/", String.append_assoc _ _ _⟩

/-- The lookup finds the registered row when no other host matches. -/
theorem getBackendStateByHost_registered {db : Db} {t : BackendTable} {r : BackendState}
    {u : String} (hl : db.lookup = none) (hb : '\\' ∉ u.toList) (hr : r ∈ t.rows)
    (hh : r.host = apiURL u) (ho : ∀ x ∈ t.rows, x.id ≠ r.id → ilike x.host (u ++ "%") ≠ some true) :
    getBackendStateByHost db t (u ++ "%") = .ok (some r) := by
  obtain ⟨ts, hts, hm⟩ := likeMatch_append_any (not_mem_map_toLower (by decide) hb)
  have hp : (u ++ "%").toList.map Char.toLower = u.toList.map Char.toLower ++ ['%'] := by
    rw [String.toList, String.data_append, List.map_append]; rfl
  have hmatch : ∀ x : BackendState, ilike x.host (u ++ "%") =
      some (likeMatch (x.host.toList.map Char.toLower) ts) := fun x => by rw [ilike, hp, hts]; rfl
  have key : t.rows.find? (fun x => likeMatch (x.host.toList.map Char.toLower) ts) = some r := by
    rcases hf : t.rows.find? (fun x => likeMatch (x.host.toList.map Char.toLower) ts) with _ | y
    · obtain ⟨v, hv⟩ := apiURL_eq u
      have := List.find?_eq_none.1 hf r hr
      rw [hh, hv, String.toList, String.data_append, List.map_append] at this
      exact absurd (hm _) this
    · have hy := List.find?_some hf
      by_cases hid : y.id = r.id
      · rw [hf]; exact congrArg some (BackendTable.eq_of_id (List.mem_of_find?_eq_some hf) hr hid)
      · exact absurd (by rw [hmatch, hy]) (ho y (List.mem_of_find?_eq_some hf) hid)
  simp only [getBackendStateByHost, hl, hp, hts, key]

/-- What `configToBackendState` may do in a table in which it should find
    row `r`: fail and leave the table as it was, or return `r` with the
    configured secret and leave every other row as it was. On a drifted
    secret the row is rewritten by `Save`, which also stamps `updated_at`;
    otherwise nothing is written. -/
def FindsOnly (r : BackendState) (conf : Properties) (now : Nat) (t : BackendTable) :
    Except Fault (Option BackendState) × BackendTable → Prop
  | (.error _, t') => t' = t
  | (.ok none, _) => False
  | (.ok (some s), t') => ∃ k, conf.get cfgSecret = some k ∧
      s = (if r.secret = k then r else { r with secret := k, updatedAt := some now }) ∧
      t'.rows = t.rows.map fun x => if x.id = r.id then s else x

/-- `Save` of a stored row with a new secret rewrites that row's secret and
    `updated_at`, and no other row. -/
theorem BackendState.save_secret {db : Db} {now c : Nat} {t t' : BackendTable}
    {r s' : BackendState} {k : String} (hr : r ∈ t.rows) (hc : r.createdAt = some c)
    (h : ({ r with secret := k } : BackendState).save db now t = (.ok (), s', t')) :
    s' = { r with secret := k, updatedAt := some now } ∧
      t'.rows = t.rows.map fun x => if x.id = r.id then s' else x := by
  obtain ⟨rfl, hmem, hid⟩ :=
    BackendState.save_stored (show ({ r with secret := k } : BackendState).createdAt = some c from hc) h
  obtain ⟨x, hx, rfl⟩ := List.mem_map.1 hmem
  rw [BackendState.write_id] at hid
  obtain rfl := BackendTable.eq_of_id hx hr hid
  exact ⟨BackendState.write_secret x k (some now), BackendTable.write_rows_eq hx rfl⟩

/-- The agent finds row `r` when no other host matches its server URL. -/
theorem configToBackendState_finds {db : Db} {now : Nat} {conf : Properties} {t : BackendTable}
    {r : BackendState} {u : String} (hu : conf.get cfgWebServerURL = some u)
    (hb : '\\' ∉ u.toList) (hr : r ∈ t.rows) (hh : r.host = apiURL u) (hc : r.createdAt.isSome)
    (ho : ∀ x ∈ t.rows, x.id ≠ r.id → ilike x.host (u ++ "%") ≠ some true) :
    FindsOnly r conf now t (configToBackendState db now conf t) := by
  unfold configToBackendState
  rcases ha : db.acquire with _ | e <;> rcases hbg : db.begin with _ | e' <;>
    simp only [ha, hbg, FindsOnly]
  rcases hk : conf.get cfgSecret with _ | k <;> simp only [hu, hk, FindsOnly]
  rcases hl : db.lookup with _ | e
  swap
  · simp [getBackendStateByHost, hl, FindsOnly]
  rw [getBackendStateByHost_registered hl hb hr hh ho]
  dsimp only
  obtain ⟨c, hc⟩ := Option.isSome_iff_exists.1 hc
  split_ifs with hs
  · rcases hsave : BackendState.save db now { r with secret := k } t with ⟨e | ⟨⟩, s', t'⟩
    · rfl
    obtain ⟨rfl, hrows⟩ := BackendState.save_secret hr hc hsave
    rcases db.commit with _ | e
    · exact ⟨k, rfl, by rw [if_neg hs], hrows⟩
    · rfl
  · rcases db.commit with _ | e
    · exact ⟨k, rfl, by rw [if_pos (not_not.1 hs)], (BackendTable.map_put_self hr).symm⟩
    · rfl

/-- **The agent finds the row it registered when no other host matches.**
    A registration from a server URL `u` without a backslash inserts one row
    and returns it. Take any later table that still holds that row, with its
    id, host and creation time (its secret may have changed), and in which
    no other row's host `ILIKE`s `u || '%'`. Then `configToBackendState`,
    for a configuration with the same server URL, either fails and changes
    nothing, or returns that row with the configured secret. On a drifted
    secret it rewrites that row's secret (and `updated_at`) and no other
    row. -/
theorem config_resolves_registered_row (db₀ db : Db) (now₀ now : Nat) (reg conf : Properties)
    (t₀ t₁ t : BackendTable) (s₀ r : BackendState) (u : String)
    (hreg : configRegisterBackendState db₀ now₀ reg t₀ = (.ok s₀, t₁))
    (hu₀ : reg.get cfgWebServerURL = some u) (hu : conf.get cfgWebServerURL = some u)
    (hb : '\\' ∉ u.toList) (hr : r ∈ t.rows) (hid : r.id = s₀.id) (hh : r.host = s₀.host)
    (hc : r.createdAt = s₀.createdAt)
    (ho : ∀ x ∈ t.rows, x.id ≠ s₀.id → ilike x.host (u ++ "%") ≠ some true) :
    t₁.rows = t₀.rows ++ [s₀] ∧ s₀.host = apiURL u ∧
      FindsOnly r conf now t (configToBackendState db now conf t) := by
  obtain ⟨u', -, hu', -, hrows, hhost, -, hcr, -⟩ := configRegisterBackendState_ok hreg
  obtain rfl : u' = u := Option.some.inj (hu'.symm.trans hu₀)
  exact ⟨hrows, hhost, configToBackendState_finds hu hb hr (hh.trans hhost) (by simp [hc, hcr])
    (hid ▸ ho)⟩

/-- A node registered from `http://b1` with secret `k`, whose row's secret
    was changed to `old` since: the agent's lookup rewrites it. -/
theorem config_resolves_drifted_secret :
    configRegisterBackendState { Db.ok with uuid := "b" } 1
        ⟨fun k => if k = cfgWebServerURL then some "http://b1" else if k = cfgSecret then some "k"
          else none⟩ ⟨[], List.nodup_nil⟩ =
      (.ok ⟨"b", "init", "init", none, "http://b1/bigbluebutton/api/", "k", [], 0, some 1, none, none⟩,
        ⟨[⟨"b", "init", "init", none, "http://b1/bigbluebutton/api/", "k", [], 0, some 1, none, none⟩],
          List.nodup_singleton _⟩) ∧
    [⟨"b", "init", "init", none, "http://b1/bigbluebutton/api/", "k", [], 0, some 1, none, none⟩] =
      ([] : List BackendState) ++
        [⟨"b", "init", "init", none, "http://b1/bigbluebutton/api/", "k", [], 0, some 1, none, none⟩] ∧
    "http://b1/bigbluebutton/api/" = apiURL "http://b1" ∧
    FindsOnly ⟨"b", "init", "init", none, "http://b1/bigbluebutton/api/", "old", [], 0, some 1, none, none⟩
      ⟨fun k => if k = cfgWebServerURL then some "http://b1" else if k = cfgSecret then some "k"
        else none⟩ 2
      ⟨[⟨"b", "init", "init", none, "http://b1/bigbluebutton/api/", "old", [], 0, some 1, none, none⟩],
        List.nodup_singleton _⟩
      (configToBackendState Db.ok 2
        ⟨fun k => if k = cfgWebServerURL then some "http://b1" else if k = cfgSecret then some "k"
          else none⟩
        ⟨[⟨"b", "init", "init", none, "http://b1/bigbluebutton/api/", "old", [], 0, some 1, none, none⟩],
          List.nodup_singleton _⟩) :=
  ⟨rfl, config_resolves_registered_row { Db.ok with uuid := "b" } Db.ok 1 2
    ⟨fun k => if k = cfgWebServerURL then some "http://b1" else if k = cfgSecret then some "k"
      else none⟩ _ ⟨[], List.nodup_nil⟩
    ⟨[⟨"b", "init", "init", none, "http://b1/bigbluebutton/api/", "k", [], 0, some 1, none, none⟩],
      List.nodup_singleton _⟩ _
    ⟨"b", "init", "init", none, "http://b1/bigbluebutton/api/", "k", [], 0, some 1, none, none⟩ _
    "http://b1" rfl rfl rfl (by decide) (List.mem_singleton_self _) rfl rfl rfl (by decide)⟩

end Node
end B3scale
