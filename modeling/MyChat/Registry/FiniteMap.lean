import MyChat.Lib.CompositeKey
import MyChat.Registry.ConnectionManager

/-!
# The registry as a finite map

What the registry is for is a map from a user, a device, and a platform to the session that
connected with them last. `Represents` says that the queries answer as this map does. The registry
keeps the sessions under the text `device_id:platform` instead, and it looks for a platform by a
search in that text.

`represents_iff` says what is lost by that. After any sequence of calls of `add_connection` the
registry represents the map exactly when no device and no platform has a `:` in it, and the
platforms of every user are closed under prefixes: the search for `:web` finds `:webview` too, and
the search for the empty platform finds everything.
-/

namespace MyChat.Registry

open MyChat.CompositeKey MyChat.Run

/-- A call of `add_connection`, with what it depends on. -/
structure Add where
  /-- `user_id`. -/
  userId : String
  /-- `device_id`. -/
  deviceId : String
  /-- `platform`. -/
  platform : String
  /-- The id of the session. -/
  sessionId : String
  /-- The time of the call. -/
  now : ℤ
  /-- The order in which the call walks the sessions of the user. -/
  order : WalkOrder

/-- The call. -/
def Add.call (a : Add) : Call := .add a.userId a.deviceId a.platform a.sessionId a.now a.order

/-- What the call registers the session under. -/
def Add.triple (a : Add) : String × String × String := (a.userId, a.deviceId, a.platform)

/-- Where the call stores the session. -/
def Add.slot (a : Add) : String × String :=
  (a.userId, generateDeviceField a.deviceId a.platform)

/-- What the call stores. -/
def Add.info (a : Add) : DeviceSessionInfo := ⟨a.sessionId, a.deviceId, a.platform, a.now⟩

/-- The registry after the calls. -/
def registered (multiDevice : String → Bool) (adds : List Add) : Redis :=
  run (step multiDevice) Redis.empty (adds.map Add.call)

/-- The queries answer as the map from triples to their last session does. -/
structure Represents (adds : List Add) (r : Redis) : Prop where
  /-- `get_session` resolves to the session that was added last under exactly this triple. -/
  getSession : ∀ u d p,
    getSession r u d p = (latest Add.triple adds (u, d, p)).map Add.sessionId
  /-- Distinct triples do not share a record. -/
  separate : ∀ a ∈ adds, ∀ b ∈ adds, a.triple ≠ b.triple → a.slot ≠ b.slot
  /-- `get_user_sessions` lists the sessions of the user's triples. -/
  mem_getUserSessions : ∀ order u info, info ∈ getUserSessions order r u ↔
    ∃ a, latest Add.triple adds (u, info.deviceId, info.platform) = some a ∧ a.info = info
  /-- It lists no triple twice. -/
  nodup_getUserSessions : ∀ order u,
    ((getUserSessions order r u).map fun info => (info.deviceId, info.platform)).Nodup
  /-- A user is online on a platform exactly when he has a triple with it. -/
  online : ∀ u p, isUserOnlineOnPlatform r u p = true ↔
    ∃ a ∈ adds, a.userId = u ∧ a.platform = p

/-- No device and no platform has the separator in it. -/
def NoColon (adds : List Add) : Prop :=
  ∀ a ∈ adds, ':' ∉ a.deviceId.toList ∧ ':' ∉ a.platform.toList

/-- Whatever a user's platform starts with is a platform of the user. -/
def PrefixClosed (adds : List Add) : Prop :=
  ∀ a ∈ adds, ∀ q : String, q.toList <+: a.platform.toList →
    ∃ b ∈ adds, b.userId = a.userId ∧ b.platform = q

variable {multiDevice : String → Bool} {adds : List Add} {a b : Add}

/-! ## Fields -/

theorem toList_generateDeviceField (d p : String) :
    (generateDeviceField d p).toList = join ':' d.toList p.toList := by
  simp [generateDeviceField, join, String.toList_append]

/-- A device and a platform without `:` have a field of their own. -/
theorem generateDeviceField_inj {d p d' p' : String} (hd : ':' ∉ d.toList) (hp : ':' ∉ p.toList) :
    generateDeviceField d' p' = generateDeviceField d p ↔ d' = d ∧ p' = p := by
  constructor
  · intro h
    have hlist : join ':' d.toList p.toList = join ':' d'.toList p'.toList := by
      rw [← toList_generateDeviceField, ← toList_generateDeviceField, h]
    obtain ⟨h1, h2⟩ := join_inj hd hp hlist
    exact ⟨String.toList_inj.mp h1.symm, String.toList_inj.mp h2.symm⟩
  · rintro ⟨rfl, rfl⟩
    rfl

/-- A device or a platform with `:` shares its field with others. -/
theorem exists_same_field {d p : String} (h : ':' ∈ d.toList ∨ ':' ∈ p.toList) :
    ∃ d' p', (d', p') ≠ (d, p) ∧ generateDeviceField d' p' = generateDeviceField d p := by
  obtain ⟨x, y, hne, hjoin⟩ := exists_other_split h
  refine ⟨String.ofList x, String.ofList y, ?_, ?_⟩
  · intro heq
    apply hne
    rw [← (Prod.mk.inj heq).1, ← (Prod.mk.inj heq).2, String.toList_ofList, String.toList_ofList]
  · rw [← String.toList_inj, toList_generateDeviceField, toList_generateDeviceField,
      String.toList_ofList, String.toList_ofList, hjoin]

/-- The search for a platform finds the fields whose platform starts with it. -/
theorem contains_generateDeviceField {d p q : String} (hd : ':' ∉ d.toList)
    (hp : ':' ∉ p.toList) :
    contains (generateDeviceField d p) (":" ++ q) = true ↔ q.toList <+: p.toList := by
  have hpattern : (":" ++ q).toList = ':' :: q.toList := by
    simp [String.toList_append]
  rw [contains, decide_eq_true_iff, hpattern, toList_generateDeviceField, infix_join_iff hd hp]

/-! ## What the calls leave in the registry -/

theorem registered_concat : registered multiDevice (adds ++ [a]) =
    added multiDevice a.order a.now (registered multiDevice adds) a.userId a.deviceId a.platform
      a.sessionId := by
  rw [registered, List.map_append, List.map_singleton, run_concat]
  rfl

/-- The last session that was stored in a slot is there. -/
theorem lookup_registered (u f : String) :
    (sessionsOf (registered multiDevice adds) u).lookup f =
      (latest Add.slot adds (u, f)).map Add.info := by
  induction adds using List.reverseRecOn with
  | nil => rfl
  | append_singleton adds a ih =>
    have hslot : a.slot = (u, f) ↔
        u = a.userId ∧ f = generateDeviceField a.deviceId a.platform := by
      rw [Add.slot, Prod.mk.injEq]
      exact and_congr eq_comm eq_comm
    rw [registered_concat, lookup_added, latest_concat, ih]
    simp only [hslot]
    split_ifs <;> rfl

/-- The fields of a user are those of his calls. -/
theorem mem_platformsOf_registered (u f : String) :
    f ∈ platformsOf (registered multiDevice adds) u ↔ ∃ a ∈ adds, a.slot = (u, f) := by
  induction adds using List.reverseRecOn with
  | nil => simp [registered, run, platformsOf, Redis.empty]
  | append_singleton adds a ih =>
    rw [registered_concat, platformsOf_added]
    simp only [List.mem_append, List.mem_singleton, or_and_right, exists_or, exists_eq_left, ← ih]
    rcases eq_or_ne u a.userId with rfl | hu
    · rw [if_pos rfl, Finset.mem_insert, Add.slot, Prod.mk.injEq]
      rw [or_comm, eq_comm]
      simp
    · rw [if_neg hu, Add.slot, Prod.mk.injEq]
      simp [hu.symm]

/-- A user is online on a platform when the search finds it in one of his fields. -/
theorem isUserOnlineOnPlatform_registered (u q : String) :
    isUserOnlineOnPlatform (registered multiDevice adds) u q = true ↔
      ∃ a ∈ adds, a.userId = u ∧
        contains (generateDeviceField a.deviceId a.platform) (":" ++ q) = true := by
  rw [isUserOnlineOnPlatform, decide_eq_true_iff]
  constructor
  · rintro ⟨f, hf, hcontains⟩
    obtain ⟨a, ha, hslot⟩ := (mem_platformsOf_registered u f).mp hf
    obtain ⟨hu, hfield⟩ := Prod.mk.inj hslot
    exact ⟨a, ha, hu, hfield ▸ hcontains⟩
  · rintro ⟨a, ha, rfl, hcontains⟩
    exact ⟨_, (mem_platformsOf_registered _ _).mpr ⟨a, ha, rfl⟩, hcontains⟩

/-! ## Without a separator in the texts -/

/-- Without `:` in them, a slot is a triple. -/
theorem NoColon.slot_iff (h : NoColon adds) (ha : a ∈ adds) {u d p : String} :
    a.slot = (u, generateDeviceField d p) ↔ a.triple = (u, d, p) := by
  obtain ⟨hd, hp⟩ := h a ha
  have hfield : generateDeviceField a.deviceId a.platform = generateDeviceField d p ↔
      a.deviceId = d ∧ a.platform = p := by
    rw [eq_comm, generateDeviceField_inj hd hp]
    exact and_congr eq_comm eq_comm
  rw [Add.slot, Add.triple, Prod.mk.injEq, Prod.mk.injEq, Prod.mk.injEq, hfield]

theorem NoColon.latest_slot (h : NoColon adds) (u d p : String) :
    latest Add.slot adds (u, generateDeviceField d p) = latest Add.triple adds (u, d, p) :=
  latest_congr fun _ ha => h.slot_iff ha

/-- Every session that is stored is stored in the slot of its own device and platform. -/
theorem field_of_lookup_registered {u f : String} {info : DeviceSessionInfo}
    (h : (sessionsOf (registered multiDevice adds) u).lookup f = some info) :
    f = generateDeviceField info.deviceId info.platform := by
  rw [lookup_registered, Option.map_eq_some_iff] at h
  obtain ⟨a, hlatest, rfl⟩ := h
  obtain ⟨-, hslot⟩ := latest_eq_some hlatest
  exact (Prod.mk.inj hslot).2.symm

/-- No slot is listed twice, whatever the texts are. -/
theorem nodup_getUserSessions_registered (order : WalkOrder) (u : String) :
    ((getUserSessions order (registered multiDevice adds) u).map
      fun info => (info.deviceId, info.platform)).Nodup := by
  have hkeys : ((order.walk (sessionsOf (registered multiDevice adds) u).entries).map
      Sigma.fst).Nodup :=
    ((order.perm _).map _).nodup_iff.mpr (AList.keys_nodup _)
  -- The field of an entry is made of the device and the platform in its value.
  have hfields : (order.walk (sessionsOf (registered multiDevice adds) u).entries).map Sigma.fst =
      (((order.walk (sessionsOf (registered multiDevice adds) u).entries).map Sigma.snd).map
        fun info => (info.deviceId, info.platform)).map
          fun pair => generateDeviceField pair.1 pair.2 := by
    rw [List.map_map, List.map_map]
    apply List.map_congr_left
    intro entry hmem
    have hentry := (order.perm _).mem_iff.mp hmem
    exact field_of_lookup_registered (AList.mem_lookup_iff.mpr hentry)
  rw [hfields] at hkeys
  exact hkeys.of_map

/-- The registry represents the map if the texts have no `:` and every prefix of a platform is one
of the user's platforms. -/
theorem represents_registered (hcolon : NoColon adds) (hclosed : PrefixClosed adds) :
    Represents adds (registered multiDevice adds) := by
  constructor
  case getSession =>
    intro u d p
    rw [Registry.getSession, lookup_registered, hcolon.latest_slot, Option.map_map]
    rfl
  case separate =>
    intro a ha b _ hne hslot
    exact hne ((hcolon.slot_iff ha).mp hslot)
  case mem_getUserSessions =>
    intro order u info
    rw [mem_getUserSessions_iff]
    constructor
    · rintro ⟨f, hf⟩
      have hfield := field_of_lookup_registered hf
      rw [lookup_registered, hfield, hcolon.latest_slot, Option.map_eq_some_iff] at hf
      exact hf
    · rintro ⟨a, hlatest, hinfo⟩
      refine ⟨generateDeviceField info.deviceId info.platform, ?_⟩
      rw [lookup_registered, hcolon.latest_slot, hlatest, Option.map_some, hinfo]
  case nodup_getUserSessions => exact nodup_getUserSessions_registered
  case online =>
    intro u q
    rw [isUserOnlineOnPlatform_registered]
    constructor
    · rintro ⟨a, ha, rfl, hcontains⟩
      obtain ⟨hd, hp⟩ := hcolon a ha
      -- The field holds `:` with `q` after it, a prefix of its platform and so a platform too.
      exact hclosed a ha q ((contains_generateDeviceField hd hp).mp hcontains)
    · rintro ⟨a, ha, rfl, rfl⟩
      obtain ⟨hd, hp⟩ := hcolon a ha
      exact ⟨a, ha, rfl, (contains_generateDeviceField hd hp).mpr (List.prefix_refl _)⟩

/-! ## With a separator in the texts -/

/-- A device or a platform with `:` answers for another triple. -/
theorem Represents.noColon (h : Represents adds (registered multiDevice adds)) : NoColon adds := by
  intro a ha
  by_contra hcolon
  have hmem : ':' ∈ a.deviceId.toList ∨ ':' ∈ a.platform.toList := by
    by_contra hnone
    exact hcolon (not_or.mp hnone)
  obtain ⟨d, p, hne, hfield⟩ := exists_same_field hmem
  -- The other triple is found, so it was added, and then the two share their slot.
  have hget := h.getSession a.userId d p
  obtain ⟨c, hc⟩ : ∃ c, latest Add.slot adds a.slot = some c := exists_latest ha
  rw [Registry.getSession, lookup_registered, hfield, show (a.userId, _) = a.slot from rfl,
    hc] at hget
  obtain ⟨b, hb, -⟩ := Option.map_eq_some_iff.mp hget.symm
  obtain ⟨hbmem, hbtriple⟩ := latest_eq_some hb
  obtain ⟨hbu, hbrest⟩ := Prod.mk.inj hbtriple
  obtain ⟨hbd, hbp⟩ := Prod.mk.inj hbrest
  refine h.separate a ha b hbmem ?_ ?_
  · intro htriple
    apply hne
    rw [← hbd, ← hbp]
    exact (Prod.mk.inj htriple).2.symm
  · rw [Add.slot, Add.slot, hbu, hbd, hbp, hfield]

theorem Represents.prefixClosed (h : Represents adds (registered multiDevice adds)) :
    PrefixClosed adds := by
  intro a ha q hq
  obtain ⟨hd, hp⟩ := h.noColon a ha
  rw [← h.online, isUserOnlineOnPlatform_registered]
  exact ⟨a, ha, rfl, (contains_generateDeviceField hd hp).mpr hq⟩

/-- The registry represents the map exactly when no device and no platform has a `:` in it and every
prefix of a user's platform is a platform of the user. -/
theorem represents_iff (multiDevice : String → Bool) (adds : List Add) :
    Represents adds (registered multiDevice adds) ↔ NoColon adds ∧ PrefixClosed adds := by
  constructor
  · exact fun h => ⟨h.noColon, h.prefixClosed⟩
  · exact fun h => represents_registered h.1 h.2

/-- The device `a:b` on the platform `c` and the device `a` on the platform `b:c`: the second takes
the record of the first. -/
def sameField : List Add :=
  [⟨"alice", "a:b", "c", "session_1", 0, .inOrder⟩, ⟨"alice", "a", "b:c", "session_2", 1, .inOrder⟩]

theorem sameField_not_represented :
    ¬ Represents sameField (registered (fun _ => true) sameField) := by
  intro h
  exact absurd (h.getSession "alice" "a:b" "c") (by decide +kernel)

end MyChat.Registry
