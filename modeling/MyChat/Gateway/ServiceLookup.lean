import Mathlib.Data.List.Pairwise
import MyChat.Gateway.RouterReload

/-!
# Services by their commands

What `ServiceRouter` answers for a configuration whose entries are well formed, with distinct names
and disjoint ranges. `findServiceByCmd` walks a hash table of ranges, in an order that the library
chooses, and looks the name that it finds up in a second table, with `operator[]`. Neither the order
nor the second table can go wrong: at most one of the ranges covers the command, and its name is one
of the second table's (`ServiceRouter.listed`).

`findServiceByCmd_loadConfig` is the answer for every command, and says that it is also that of
`findService` and of every reordering of the file.
-/

namespace MyChat.Router

open Emplace

/-! ## Well-formed entries -/

/-- The item is an object that declares this service with this range: its name and its endpoint,
which are not empty, its two limits, which may be left out at their defaults, and the two ends of
its range. -/
structure DeclaresService (item : Json) (range : CmdRange) (service : Service) : Prop where
  /-- `service_name`. -/
  serviceName : item.child "service_name" = some (.string service.serviceName)
  /-- `endpoint`. -/
  endpoint : item.child "endpoint" = some (.string service.endpoint)
  /-- The endpoint is not empty. -/
  reachable : service.endpoint ≠ ""
  /-- `timeout_ms`. -/
  timeoutMs : item.child "timeout_ms" = some (.integer service.timeoutMs.toNat) ∨
    item.child "timeout_ms" = none ∧ service.timeoutMs = 3000
  /-- `max_connections`. -/
  maxConnections : item.child "max_connections" = some (.integer service.maxConnections.toNat) ∨
    item.child "max_connections" = none ∧ service.maxConnections = 10
  /-- `cmd_range`. -/
  cmdRange : item.child "cmd_range" =
    some (.array [.integer range.1.toNat, .integer range.2.toNat])

/-- The services of the configuration are well formed, and these with their ranges. -/
def DeclaresServices (config : ConfigManager) (entries : List (CmdRange × Service)) : Prop :=
  List.Forall₂ (fun item entry => DeclaresService item entry.1 entry.2)
    (configItems config ["service_router", "services"]) entries

/-- The names of the services are distinct, and no command is in two of their ranges. -/
structure Separate (entries : List (CmdRange × Service)) : Prop where
  /-- Distinct names. -/
  names : entries.Pairwise fun entry entry' => entry.2.serviceName ≠ entry'.2.serviceName
  /-- Disjoint ranges. -/
  ranges : entries.Pairwise fun entry entry' => ∀ cmd, ¬ (Covers entry.1 cmd ∧ Covers entry'.1 cmd)

section Members

variable {α : Type} {get : Json → Option α} {key : String} {default : α} {item member : Json}

/-- A member of an object. -/
theorem value_of_child (h : item.child key = some member) :
    item.value get key default = get member := by
  cases item with
  | object fields =>
    have hlookup : fields.lookup key = some member := h
    rw [Json.value, hlookup]
  | _ => simp [Json.child] at h

/-- A number that may be left out. -/
theorem value_getUint32 {config : ConfigManager} (hget : config.GetsIntegers)
    {n default : UInt32} {name : String} {other : Json}
    (hobject : item.child name = some other)
    (h : item.child key = some (.integer n.toNat) ∨ item.child key = none ∧ n = default) :
    item.value config.getUint32 key default = some n := by
  rcases h with hsome | ⟨hnone, rfl⟩
  · rw [value_of_child hsome, hget]
  · cases item with
    | object fields =>
      have hlookup : fields.lookup key = none := hnone
      rw [Json.value, hlookup]
    | _ => simp [Json.child] at hobject

/-- An object with a member is not empty. -/
theorem isEmpty_of_child (h : item.child key = some member) : item.isEmpty = false := by
  cases item with
  | object fields =>
    rcases fields with _ | ⟨field, fields⟩
    · simp [Json.child] at h
    · rfl
  | _ => simp [Json.child] at h

end Members

/-- `load_config` reads a well-formed item as the service that it declares. -/
theorem DeclaresService.readService_eq {config : ConfigManager} (hget : config.GetsIntegers)
    {item : Json} {range : CmdRange} {service : Service} (h : DeclaresService item range service) :
    ServiceRouter.readService config item = some (some (range, service)) := by
  have hname : item.value Json.getString "service_name" "" = some service.serviceName :=
    value_of_child h.serviceName
  have hendpoint : item.value Json.getString "endpoint" "" = some service.endpoint :=
    value_of_child h.endpoint
  have htimeout := value_getUint32 hget h.serviceName h.timeoutMs
  have hmax := value_getUint32 hget h.serviceName h.maxConnections
  have hrange : ServiceRouter.readCmdRange config item = some range := by
    have hvalue : item.value some "cmd_range" (.array []) =
        some (.array [.integer range.1.toNat, .integer range.2.toNat]) := value_of_child h.cmdRange
    simp [ServiceRouter.readCmdRange, hvalue, hget range.1, hget range.2]
  have hskip : ¬ (service.serviceName = "" ∨ service.endpoint = "") := by
    rintro (hempty | hempty)
    · exact service.named hempty
    · exact h.reachable hempty
  unfold ServiceRouter.readService
  rw [isEmpty_of_child h.serviceName]
  simp [hname, hendpoint, htimeout, hmax, hrange, hskip]

/-- `load_config` goes through well-formed items to the end, and reads what they declare. -/
theorem loadItems_of_declares {config : ConfigManager} (hget : config.GetsIntegers)
    {items : List Json} {entries : List (CmdRange × Service)}
    (h : List.Forall₂ (fun item entry => DeclaresService item entry.1 entry.2) items entries)
    (router : ServiceRouter) :
    loadItems (ServiceRouter.readService config) ServiceRouter.add router items =
      (true, entries.foldl ServiceRouter.add router) := by
  induction h generalizing router with
  | nil => rfl
  | @cons item entry items entries hitem _ ih =>
    rw [loadItems, hitem.readService_eq hget]
    exact ih (router.add entry)

/-! ## The tables -/

section Tables

variable {entries : List (CmdRange × Service)}

/-- The router that has loaded these services. -/
def loaded (entries : List (CmdRange × Service)) : ServiceRouter :=
  entries.foldl ServiceRouter.add .empty

/-- A name is looked up as the first service that has it. -/
theorem lookup_services (name : String) :
    (loaded entries).services.lookup name =
      (entries.find? fun entry => entry.2.serviceName = name).map Prod.snd := by
  rw [loaded, (foldl_add _ _).1]
  show (emplaceAll ∅ _).lookup name = _
  rw [lookup_emplaceAll_empty, List.find?_map, Option.map_map]
  rfl

/-- A range is looked up as the name of the first service that has it. -/
theorem lookup_cmds (range : CmdRange) :
    (loaded entries).cmds.lookup range =
      (entries.find? fun entry => entry.1 = range).map fun entry => entry.2.serviceName := by
  rw [loaded, (foldl_add _ _).2]
  show (emplaceAll ∅ _).lookup range = _
  rw [lookup_emplaceAll_empty, List.find?_map, Option.map_map]
  rfl

/-- A range of the table is one of a service. -/
theorem exists_of_mem_cmds {held : (_ : CmdRange) × String}
    (h : held ∈ (loaded entries).cmds.entries) :
    ∃ entry ∈ entries, entry.1 = held.1 ∧ entry.2.serviceName = held.2 := by
  have hlookup : (loaded entries).cmds.lookup held.1 = some held.2 := AList.mem_lookup_iff.mpr h
  rw [lookup_cmds] at hlookup
  obtain ⟨entry, hfind, hname⟩ := Option.map_eq_some_iff.mp hlookup
  exact ⟨entry, List.mem_of_find?_eq_some hfind, by simpa using List.find?_some hfind, hname⟩

/-- The range of a service is in the table. -/
theorem exists_mem_cmds {entry : CmdRange × Service} (h : entry ∈ entries) :
    ∃ held ∈ (loaded entries).cmds.entries, held.1 = entry.1 := by
  have hsome : ((loaded entries).cmds.lookup entry.1).isSome := by
    rw [lookup_cmds, Option.isSome_map, List.find?_isSome]
    exact ⟨entry, h, by simp⟩
  obtain ⟨name, hname⟩ := Option.isSome_iff_exists.mp hsome
  exact ⟨⟨entry.1, name⟩, AList.mem_lookup_iff.mp hname, rfl⟩

variable (hsep : Separate entries)
include hsep

/-- A command is in the range of at most one service. -/
theorem Separate.unique {entry entry' : CmdRange × Service} (h : entry ∈ entries)
    (h' : entry' ∈ entries) {cmd : UInt32} (hcovers : Covers entry.1 cmd)
    (hcovers' : Covers entry'.1 cmd) : entry = entry' := by
  by_contra hne
  have : Std.Symm fun entry entry' : CmdRange × Service =>
      ∀ cmd, ¬ (Covers entry.1 cmd ∧ Covers entry'.1 cmd) :=
    ⟨fun _ _ hdisjoint cmd hboth => hdisjoint cmd hboth.symm⟩
  exact hsep.ranges.forall h h' hne cmd ⟨hcovers, hcovers'⟩

/-- A service is looked up under its name. -/
theorem Separate.lookup_serviceName {entry : CmdRange × Service} (h : entry ∈ entries) :
    (loaded entries).services.lookup entry.2.serviceName = some entry.2 := by
  have hsome : (entries.find? fun held => held.2.serviceName = entry.2.serviceName).isSome := by
    rw [List.find?_isSome]
    exact ⟨entry, h, by simp⟩
  obtain ⟨held, hheld⟩ := Option.isSome_iff_exists.mp hsome
  have hname : held.2.serviceName = entry.2.serviceName := by simpa using List.find?_some hheld
  have hsame : held = entry := by
    by_contra hne
    have : Std.Symm fun entry entry' : CmdRange × Service =>
        entry.2.serviceName ≠ entry'.2.serviceName := ⟨fun _ _ hdistinct => hdistinct.symm⟩
    exact hsep.names.forall (List.mem_of_find?_eq_some hheld) h hne hname
  rw [lookup_services, hheld, hsame]
  rfl

/-- The walk over the ranges, in any order, ends at the service whose range covers the command. -/
theorem Separate.serviceOfCmd_eq {entry : CmdRange × Service} (h : entry ∈ entries)
    (order : RangeOrder) {cmd : UInt32} (hcovers : Covers entry.1 cmd) :
    (loaded entries).serviceOfCmd order cmd = entry.2.serviceName := by
  have hne : (loaded entries).serviceOfCmd order cmd ≠ "" := by
    intro hempty
    obtain ⟨held, hheld, hrange⟩ := exists_mem_cmds h
    refine (ServiceRouter.serviceOfCmd_eq_empty_iff order).mp hempty held hheld ?_
    rw [hrange]
    exact hcovers
  obtain ⟨held, hheld, hcovered, hname⟩ := ServiceRouter.exists_of_serviceOfCmd_ne hne
  obtain ⟨entry', hentry', hrange, hname'⟩ := exists_of_mem_cmds hheld
  rw [← hrange] at hcovered
  rw [hname, ← hname', hsep.unique h hentry' hcovers hcovered]

/-- The service whose range covers the command is the answer, for the command and for its name. -/
theorem Separate.findService_eq {entry : CmdRange × Service} (h : entry ∈ entries)
    (order : RangeOrder) {cmd : UInt32} (hcovers : Covers entry.1 cmd) :
    (loaded entries).findServiceByCmd order cmd = entry.2.result ∧
      (loaded entries).findService entry.2.serviceName = entry.2.result := by
  have hlookup := hsep.lookup_serviceName h
  constructor
  · rw [ServiceRouter.findServiceByCmd, hsep.serviceOfCmd_eq h order hcovers,
      if_neg entry.2.named, hlookup]
  · exact (findService_iff rfl).mpr hlookup

omit hsep in
/-- A command that no range covers has no service. -/
theorem findServiceByCmd_of_not_covered {cmd : UInt32} (order : RangeOrder)
    (hnone : ∀ entry ∈ entries, ¬ Covers entry.1 cmd) :
    (loaded entries).findServiceByCmd order cmd = { errMsg := "command not found" } := by
  have hempty : (loaded entries).serviceOfCmd order cmd = "" := by
    refine (ServiceRouter.serviceOfCmd_eq_empty_iff order).mpr fun held hheld hcovers => ?_
    obtain ⟨entry, hentry, hrange, -⟩ := exists_of_mem_cmds hheld
    rw [← hrange] at hcovers
    exact hnone entry hentry hcovers
  rw [ServiceRouter.findServiceByCmd, if_pos hempty]

end Tables

/-! ## Lookup by the command -/

/-- A router that loads a configuration of well-formed services, with distinct names and disjoint
ranges. The load succeeds; every command in the range of a service is answered with that service, as
its name is, and any other command with an invalid result; and a configuration with the same
services in another order, walked in any order, gives the same answers. -/
theorem findServiceByCmd_loadConfig {config : ConfigManager} (hget : config.GetsIntegers)
    {entries : List (CmdRange × Service)} (hconfig : DeclaresServices config entries)
    (hsep : Separate entries) :
    ∃ router, ServiceRouter.empty.loadConfig (some config) = (true, router) ∧
      (∀ order cmd, ∀ entry ∈ entries, Covers entry.1 cmd →
        (∀ entry' ∈ entries, Covers entry'.1 cmd → entry' = entry) ∧
        router.findServiceByCmd order cmd = entry.2.result ∧
        router.findService entry.2.serviceName = entry.2.result) ∧
      (∀ order cmd, (∀ entry ∈ entries, ¬ Covers entry.1 cmd) →
        (router.findServiceByCmd order cmd).isValid = false) ∧
      ∀ config' entries' order order' cmd, config'.GetsIntegers → entries'.Perm entries →
        DeclaresServices config' entries' →
        (ServiceRouter.empty.loadConfig (some config')).2.findServiceByCmd order' cmd =
          router.findServiceByCmd order cmd := by
  refine ⟨loaded entries, loadItems_of_declares hget hconfig _, ?_, ?_, ?_⟩
  · intro order cmd entry hentry hcovers
    exact ⟨fun entry' hentry' hcovers' => hsep.unique hentry' hentry hcovers' hcovers,
      hsep.findService_eq hentry order hcovers⟩
  · intro order cmd hnone
    rw [findServiceByCmd_of_not_covered order hnone]
  · intro config' entries' order order' cmd hget' hperm hconfig'
    have hload : (ServiceRouter.empty.loadConfig (some config')).2 = loaded entries' :=
      congrArg Prod.snd (loadItems_of_declares hget' hconfig' _)
    have hsep' : Separate entries' :=
      ⟨(hperm.pairwise_iff fun h => h.symm).mpr hsep.names,
        (hperm.pairwise_iff fun h cmd hboth => h cmd hboth.symm).mpr hsep.ranges⟩
    rw [hload]
    -- Both routers answer with the one service that covers the command, or with none.
    by_cases hcovered : ∃ entry ∈ entries, Covers entry.1 cmd
    · obtain ⟨entry, hentry, hcovers⟩ := hcovered
      rw [(hsep.findService_eq hentry order hcovers).1,
        (hsep'.findService_eq (hperm.mem_iff.mpr hentry) order' hcovers).1]
    · push Not at hcovered
      rw [findServiceByCmd_of_not_covered order hcovered, findServiceByCmd_of_not_covered order'
        fun entry hentry => hcovered entry (hperm.mem_iff.mp hentry)]

/-! ### Two services -/

/-- The user service of the tests. -/
def testUserService : Service where
  serviceName := "user_service"
  endpoint := "localhost:9001"
  timeoutMs := 3000
  maxConnections := 5
  named := by decide

/-- Their message service. -/
def testMessageService : Service where
  serviceName := "message_service"
  endpoint := "localhost:9002"
  timeoutMs := 3000
  maxConnections := 5
  named := by decide

/-- The two services, with their ranges. -/
def testServices : List (CmdRange × Service) :=
  [((1001, 1010), testUserService), ((2001, 2010), testMessageService)]

/-- The object that declares a service. -/
def Service.toJson (service : Service) (range : CmdRange) : Json :=
  .object [("service_name", .string service.serviceName), ("endpoint", .string service.endpoint),
    ("timeout_ms", .integer service.timeoutMs.toNat),
    ("max_connections", .integer service.maxConnections.toNat),
    ("cmd_range", .array [.integer range.1.toNat, .integer range.2.toNat])]

/-- The configuration that declares these services. -/
def servicesConfig (entries : List (CmdRange × Service)) : ConfigManager where
  json := .object [("service_router",
    .object [("services", .array (entries.map fun entry => entry.2.toJson entry.1))])]
  getUint32 := documentedGet

theorem getsIntegers_servicesConfig (entries : List (CmdRange × Service)) :
    (servicesConfig entries).GetsIntegers := by
  intro n
  have hword : UInt32.ofInt (n.toNat : ℤ) = n := by
    apply UInt32.toNat_inj.mp
    have hn := n.toNat_lt
    rw [UInt32.ofInt, UInt32.toNat_ofNat']
    omega
  change some (UInt32.ofInt n.toNat) = some n
  rw [hword]

theorem declaresServices_servicesConfig {entries : List (CmdRange × Service)}
    (hreach : ∀ entry ∈ entries, entry.2.endpoint ≠ "") :
    DeclaresServices (servicesConfig entries) entries := by
  have hitems : configItems (servicesConfig entries) ["service_router", "services"] =
      entries.map fun entry => entry.2.toJson entry.1 := rfl
  rw [DeclaresServices, hitems, List.forall₂_map_left_iff, List.forall₂_same]
  intro entry hentry
  exact ⟨rfl, rfl, hreach entry hentry, .inl rfl, .inl rfl, rfl⟩

theorem reachable_testServices : ∀ entry ∈ testServices, entry.2.endpoint ≠ "" := by decide

theorem separate_testServices : Separate testServices := by
  refine ⟨by decide, ?_⟩
  rw [testServices, List.pairwise_pair]
  rintro cmd ⟨⟨-, huser⟩, ⟨hmessage, -⟩⟩
  rw [UInt32.le_iff_toNat_le] at huser hmessage
  simp only [UInt32.reduceToNat] at huser hmessage
  omega

/-- The configuration of the tests loads, the last command of the second range goes to the second
service, and the command after the first range to none. -/
theorem findServiceByCmd_loadConfig_tests :
    ∃ router,
      ServiceRouter.empty.loadConfig (some (servicesConfig testServices)) = (true, router) ∧
      router.findServiceByCmd .inOrder 2010 = testMessageService.result ∧
      (router.findServiceByCmd .inOrder 1011).isValid = false := by
  obtain ⟨router, hload, hfound, hnone, -⟩ := findServiceByCmd_loadConfig
    (getsIntegers_servicesConfig testServices)
    (declaresServices_servicesConfig reachable_testServices) separate_testServices
  have hmember : ((2001, 2010), testMessageService) ∈ testServices := by decide
  exact ⟨router, hload, (hfound .inOrder 2010 _ hmember (by decide)).2.1,
    hnone .inOrder 1011 (by decide)⟩

end MyChat.Router
