import MyChat.Gateway.Router
import MyChat.Lib.Run

/-!
# Reload and restart

`load_config` never takes anything out of its tables, and `emplace` keeps the entry that is there.
So a manager that reloads a file answers with what it loaded before, and with the file only where it
had nothing: `reload_routes`, `reload_services`, `reload_cmds`. Only the prefix is replaced.

`reload_like_restart_iff` says when that is not seen: exactly when what the manager held is part of
the file, and the ranges do not make the order in which the library walks them matter.
-/

namespace MyChat.Router

open Emplace Run

/-! ## What a load puts into the tables -/

section Load

variable {α σ : Type} {read : Json → Option (Option α)} {add : σ → α → σ} {s s' : σ}
  {items : List Json}

/-- What the items say, those that are skipped left out. -/
def entriesOf (read : Json → Option (Option α)) (items : List Json) : List α :=
  items.filterMap fun item => (read item).join

/-- The items up to the first one at which reading throws, which ends the load. -/
def readItems (read : Json → Option (Option α)) (items : List Json) : List Json :=
  items.takeWhile fun item => (read item).isSome

/-- A load has put everything into the tables that the items say up to its end. -/
theorem loadItems_snd :
    (loadItems read add s items).2 = (entriesOf read (readItems read items)).foldl add s := by
  induction items generalizing s with
  | nil => rfl
  | cons item items ih =>
    unfold loadItems readItems entriesOf
    rcases hread : read item with _ | _ | a
    · rw [List.takeWhile_cons_of_neg (by rw [hread]; simp)]
      rfl
    · rw [List.takeWhile_cons_of_pos (by rw [hread]; rfl),
        List.filterMap_cons_none (by rw [hread]; rfl)]
      exact ih
    · rw [List.takeWhile_cons_of_pos (by rw [hread]; rfl),
        List.filterMap_cons_some (by rw [hread]; rfl), List.foldl_cons]
      exact ih

end Load

/-- The two tables of the service router after a load. -/
theorem foldl_add (router : ServiceRouter) (entries : List (CmdRange × Service)) :
    (entries.foldl ServiceRouter.add router).services =
        emplaceAll router.services (entries.map fun entry => (entry.2.serviceName, entry.2)) ∧
      (entries.foldl ServiceRouter.add router).cmds =
        emplaceAll router.cmds (entries.map fun entry => (entry.1, entry.2.serviceName)) := by
  induction entries generalizing router with
  | nil => exact ⟨rfl, rfl⟩
  | cons entry entries ih => exact ih (router.add entry)

variable {config : ConfigManager}

/-- The HTTP router after a load. -/
theorem httpRouter_loadConfig (router : HttpRouter) :
    (router.loadConfig (some config)).2 =
      ⟨configString config ["http_router", "api_prefix"] HttpRouter.defaultApiPrefix,
        emplaceAll router.routes (entriesOf (HttpRouter.readRoute config)
          (readItems (HttpRouter.readRoute config)
            (configItems config ["http_router", "routes"])))⟩ :=
  congrArg (HttpRouter.mk _) loadItems_snd

/-- The service router after a load. -/
theorem serviceRouter_loadConfig (router : ServiceRouter) :
    (router.loadConfig (some config)).2 =
      (entriesOf (ServiceRouter.readService config) (readItems (ServiceRouter.readService config)
        (configItems config ["service_router", "services"]))).foldl ServiceRouter.add router :=
  loadItems_snd

variable {manager : RouterManager}

/-- What a reload does, compared to a start on the file, whether or not it succeeds: the prefix is
the file's, and the tables are filled with the same entries. -/
theorem reload_tables (manager : RouterManager) (config : ConfigManager) :
    (manager.reloadConfig (some config)).2.httpRouter.apiPrefix =
        (RouterManager.construct (some config)).httpRouter.apiPrefix ∧
      (∃ routes, (manager.reloadConfig (some config)).2.httpRouter.routes =
          emplaceAll manager.httpRouter.routes routes ∧
        (RouterManager.construct (some config)).httpRouter.routes = emplaceAll ∅ routes) ∧
      (∃ services, (manager.reloadConfig (some config)).2.serviceRouter.services =
          emplaceAll manager.serviceRouter.services services ∧
        (RouterManager.construct (some config)).serviceRouter.services =
          emplaceAll ∅ services) ∧
      ∃ cmds, (manager.reloadConfig (some config)).2.serviceRouter.cmds =
          emplaceAll manager.serviceRouter.cmds cmds ∧
        (RouterManager.construct (some config)).serviceRouter.cmds = emplaceAll ∅ cmds := by
  have hreload : (manager.reloadConfig (some config)).2 =
      ⟨(manager.httpRouter.loadConfig (some config)).2,
        (manager.serviceRouter.loadConfig (some config)).2⟩ := rfl
  have hconstruct : RouterManager.construct (some config) =
      ⟨(HttpRouter.empty.loadConfig (some config)).2,
        (ServiceRouter.empty.loadConfig (some config)).2⟩ := rfl
  rw [hreload, hconstruct, httpRouter_loadConfig, httpRouter_loadConfig,
    serviceRouter_loadConfig, serviceRouter_loadConfig]
  exact ⟨rfl, ⟨_, rfl, rfl⟩, ⟨_, (foldl_add _ _).1, (foldl_add _ _).1⟩,
    ⟨_, (foldl_add _ _).2, (foldl_add _ _).2⟩⟩

/-- A path has the route that it had, and else the file's. -/
theorem reload_routes (path : String) :
    (manager.reloadConfig (some config)).2.httpRouter.routes.lookup path =
      (manager.httpRouter.routes.lookup path).or
        ((RouterManager.construct (some config)).httpRouter.routes.lookup path) := by
  obtain ⟨-, ⟨routes, hreload, hconstruct⟩, -, -⟩ := reload_tables manager config
  rw [hreload, hconstruct]
  exact lookup_emplaceAll

/-- A name has the service that it had, and else the file's. -/
theorem reload_services (name : String) :
    (manager.reloadConfig (some config)).2.serviceRouter.services.lookup name =
      (manager.serviceRouter.services.lookup name).or
        ((RouterManager.construct (some config)).serviceRouter.services.lookup name) := by
  obtain ⟨-, -, ⟨services, hreload, hconstruct⟩, -⟩ := reload_tables manager config
  rw [hreload, hconstruct]
  exact lookup_emplaceAll

/-- A range of the table was there, or is the file's and had no entry. -/
theorem reload_cmds {entry : (_ : CmdRange) × String} :
    entry ∈ (manager.reloadConfig (some config)).2.serviceRouter.cmds.entries ↔
      entry ∈ manager.serviceRouter.cmds.entries ∨
        entry ∈ (RouterManager.construct (some config)).serviceRouter.cmds.entries ∧
          entry.1 ∉ manager.serviceRouter.cmds := by
  obtain ⟨-, -, -, ⟨cmds, hreload, hconstruct⟩⟩ := reload_tables manager config
  rw [hreload, hconstruct]
  exact mem_entries_emplaceAll

/-- The table of ranges is as after a start exactly when it was the start of the file's. -/
theorem reload_cmds_eq_iff :
    (manager.reloadConfig (some config)).2.serviceRouter.cmds.entries =
        (RouterManager.construct (some config)).serviceRouter.cmds.entries ↔
      manager.serviceRouter.cmds.entries <:+
        (RouterManager.construct (some config)).serviceRouter.cmds.entries := by
  obtain ⟨-, -, -, ⟨cmds, hreload, hconstruct⟩⟩ := reload_tables manager config
  rw [hreload, hconstruct, ← emplaceAll_eq_iff]
  exact AList.ext_iff.symm

/-! ## Answers -/

/-- The two managers answer alike, in whichever order the library walks the ranges. -/
structure AnswersAlike (m m' : RouterManager) : Prop where
  /-- `parse_http_route`. -/
  parseHttpRoute : ∀ method path, m.parseHttpRoute method path = m'.parseHttpRoute method path
  /-- `find_service` by the name. -/
  findService : ∀ name, m.findService name = m'.findService name
  /-- `find_service` by the command. -/
  findServiceByCmd : ∀ order cmd, m.findServiceByCmd order cmd = m'.findServiceByCmd order cmd
  /-- `route_request`. -/
  routeRequest : ∀ method path, m.routeRequest method path = m'.routeRequest method path

/-- All ranges of the two tables that cover the command are of one service, and it is covered by the
second table if it is by the first. -/
structure OneService (cmds cmds' : AList fun _ : CmdRange => String) (cmd : UInt32) : Prop where
  /-- One service. -/
  same : ∀ entry, entry ∈ cmds.entries ∨ entry ∈ cmds'.entries → Covers entry.1 cmd →
    ∀ entry' ∈ cmds'.entries, Covers entry'.1 cmd → entry.2 = entry'.2
  /-- A range of the second table. -/
  covered : ∀ entry ∈ cmds.entries, Covers entry.1 cmd →
    ∃ entry' ∈ cmds'.entries, Covers entry'.1 cmd

/-- What the manager holds is part of what a manager has that was started on the file. -/
structure PartOf (manager fresh : RouterManager) : Prop where
  /-- Its routes, of the paths that a request can have. -/
  routes : ∀ path route, path.toList.head? = some '/' →
    manager.httpRouter.routes.lookup path = some route →
    fresh.httpRouter.routes.lookup path = some route
  /-- Its services. -/
  services : ∀ name service, manager.serviceRouter.services.lookup name = some service →
    fresh.serviceRouter.services.lookup name = some service
  /-- Its ranges are the first of the file, or no command has ranges of two services. -/
  cmds : manager.serviceRouter.cmds.entries <:+ fresh.serviceRouter.cmds.entries ∨
    ∀ cmd, OneService manager.serviceRouter.cmds fresh.serviceRouter.cmds cmd

/-! ## Commands -/

namespace ServiceRouter

variable {router : ServiceRouter} {order : RangeOrder} {cmd : UInt32}

/-- An entry of the ranges is of a service with a name. -/
theorem exists_service {entry : (_ : CmdRange) × String} (h : entry ∈ router.cmds.entries) :
    ∃ service, router.services.lookup entry.2 = some service ∧ service.serviceName = entry.2 := by
  have hlookup : router.cmds.lookup entry.1 = some entry.2 := AList.mem_lookup_iff.mpr h
  obtain ⟨service, hservice⟩ :=
    Option.isSome_iff_exists.mp (AList.lookup_isSome.mpr (router.listed hlookup))
  exact ⟨service, hservice, router.named hservice⟩

/-- The name of an entry is not empty. -/
theorem name_ne_empty {entry : (_ : CmdRange) × String} (h : entry ∈ router.cmds.entries) :
    entry.2 ≠ "" := by
  obtain ⟨service, -, hname⟩ := exists_service h
  rw [← hname]
  exact service.named

variable (order) in
/-- The walk finds nothing exactly when no range has the command. -/
theorem serviceOfCmd_eq_empty_iff :
    router.serviceOfCmd order cmd = "" ↔
      ∀ entry ∈ router.cmds.entries, ¬ Covers entry.1 cmd := by
  unfold serviceOfCmd
  rcases hfind : (order.walk router.cmds.entries).find? fun entry => Covers entry.1 cmd with
    _ | found
  · rw [hfind]
    simpa [List.find?_eq_none, (order.perm router.cmds.entries).mem_iff] using hfind
  · have hmem := (order.perm router.cmds.entries).mem_iff.mp (List.mem_of_find?_eq_some hfind)
    have hcovers : Covers found.1 cmd := by simpa using List.find?_some hfind
    rw [hfind]
    exact iff_of_false (name_ne_empty hmem) fun h => h found hmem hcovers

/-- What the walk finds is the service of a range with the command. -/
theorem exists_of_serviceOfCmd_ne (h : router.serviceOfCmd order cmd ≠ "") :
    ∃ entry ∈ router.cmds.entries,
      Covers entry.1 cmd ∧ router.serviceOfCmd order cmd = entry.2 := by
  unfold serviceOfCmd at h ⊢
  rcases hfind : (order.walk router.cmds.entries).find? fun entry => Covers entry.1 cmd with
    _ | found
  · rw [hfind] at h
    exact absurd rfl h
  · have hmem := (order.perm router.cmds.entries).mem_iff.mp (List.mem_of_find?_eq_some hfind)
    rw [hfind]
    exact ⟨found, hmem, by simpa using List.find?_some hfind, rfl⟩

/-- The answer names the service that the walk found. -/
theorem findServiceByCmd_serviceName :
    (router.findServiceByCmd order cmd).serviceName = router.serviceOfCmd order cmd := by
  unfold findServiceByCmd
  by_cases h : router.serviceOfCmd order cmd = ""
  · rw [if_pos h, h]
  · obtain ⟨entry, hentry, -, hname⟩ := exists_of_serviceOfCmd_ne h
    obtain ⟨service, hservice, hstored⟩ := exists_service hentry
    rw [if_neg h, hname, hservice]
    exact hstored

end ServiceRouter

/-- The order that walks the picked entry of a table first. -/
def RangeOrder.leading
    (pick : List ((_ : CmdRange) × String) → Option ((_ : CmdRange) × String)) : RangeOrder where
  walk entries :=
    match pick entries with
    | none => entries
    | some entry => if entry ∈ entries then entry :: entries.erase entry else entries
  perm entries := by
    rcases pick entries with _ | entry
    · exact .rfl
    · dsimp only
      split_ifs with hmem
      · exact (List.perm_cons_erase hmem).symm
      · exact .rfl

/-- The entry that is walked first is found, if it covers the command. -/
theorem serviceOfCmd_leading {router : ServiceRouter} {cmd : UInt32}
    {pick : List ((_ : CmdRange) × String) → Option ((_ : CmdRange) × String)}
    {entry : (_ : CmdRange) × String} (hpick : pick router.cmds.entries = some entry)
    (hmem : entry ∈ router.cmds.entries) (hcovers : Covers entry.1 cmd) :
    router.serviceOfCmd (.leading pick) cmd = entry.2 := by
  have hwalk : (RangeOrder.leading pick).walk router.cmds.entries =
      entry :: router.cmds.entries.erase entry := by
    unfold RangeOrder.leading
    simp only [hpick, if_pos hmem]
  unfold ServiceRouter.serviceOfCmd
  rw [hwalk, List.find?_cons_of_pos (by simpa using hcovers)]

/-! ## Paths -/

/-- The path that is looked up begins with `/`. -/
theorem head_routePath (apiPrefix path : String) :
    (HttpRouter.routePath apiPrefix path).toList.head? = some '/' := by
  unfold HttpRouter.routePath
  split <;> simp

/-- Every path that begins with `/` is looked up by a request. -/
theorem routePath_append {path : String} (hpath : path.toList.head? = some '/')
    (apiPrefix : String) : HttpRouter.routePath apiPrefix (apiPrefix ++ path) = path := by
  obtain ⟨rest, hrest⟩ := List.head?_eq_some_iff.mp hpath
  unfold HttpRouter.routePath
  rw [String.toList_append, List.drop_left, hrest]
  change String.ofList ('/' :: rest) = path
  rw [← hrest, String.ofList_toList]

/-- A route is known by its result. -/
theorem result_inj {route route' : Route} (h : route.result = route'.result) : route = route' := by
  obtain ⟨cmdId, serviceName⟩ := route
  obtain ⟨cmdId', serviceName'⟩ := route'
  simpa [Route.result] using h

/-- A request for a path of the table is answered with its route, and only such a request. -/
theorem parseRoute_append_iff {router : HttpRouter} {path : String}
    (hpath : path.toList.head? = some '/') (method : String) {route : Route} :
    router.parseRoute method (router.apiPrefix ++ path) = route.result ↔
      router.routes.lookup path = some route := by
  have hstarts : router.apiPrefix.toList <+: (router.apiPrefix ++ path).toList := by
    rw [String.toList_append]
    exact List.prefix_append _ _
  unfold HttpRouter.parseRoute
  rw [if_neg (not_not.mpr hstarts), routePath_append hpath]
  rcases router.routes.lookup path with _ | held
  · simp [Route.result]
  · exact ⟨fun h => congrArg some (result_inj h), fun h =>
      congrArg Route.result (Option.some.inj h)⟩

/-- A service is known by its result. -/
theorem service_result_inj {service service' : Service} (h : service.result = service'.result) :
    service = service' := by
  obtain ⟨serviceName, endpoint, timeoutMs, maxConnections, named⟩ := service
  obtain ⟨serviceName', endpoint', timeoutMs', maxConnections', named'⟩ := service'
  simpa [Service.result] using h

/-- A service of the table is found under its name, and nothing else is. -/
theorem findService_iff {router : ServiceRouter} {name : String} {service : Service}
    (hname : service.serviceName = name) :
    router.findService name = service.result ↔ router.services.lookup name = some service := by
  have hne : name ≠ "" := hname ▸ service.named
  unfold ServiceRouter.findService
  rw [if_neg hne]
  rcases router.services.lookup name with _ | held
  · simp [Service.result]
  · exact ⟨fun h => congrArg some (service_result_inj h),
      fun h => congrArg Service.result (Option.some.inj h)⟩

/-! ## When two managers answer alike -/

/-- The ranges of the two tables that cover the command are of one service, and there is one in the
one table exactly when there is one in the other. -/
structure SameCover (cmds cmds' : AList fun _ : CmdRange => String) (cmd : UInt32) : Prop where
  /-- One service. -/
  same : ∀ entry ∈ cmds.entries, Covers entry.1 cmd →
    ∀ entry' ∈ cmds'.entries, Covers entry'.1 cmd → entry.2 = entry'.2
  /-- A range of both tables or of neither. -/
  covered : (∃ entry ∈ cmds.entries, Covers entry.1 cmd) ↔
    ∃ entry ∈ cmds'.entries, Covers entry.1 cmd

/-- The two managers hold the same, as far as a request can see it. -/
structure Agree (m m' : RouterManager) : Prop where
  /-- The prefix. -/
  apiPrefix : m.httpRouter.apiPrefix = m'.httpRouter.apiPrefix
  /-- The routes, of the paths that a request can have. -/
  routes : ∀ path, path.toList.head? = some '/' →
    m.httpRouter.routes.lookup path = m'.httpRouter.routes.lookup path
  /-- The services. -/
  services : ∀ name, m.serviceRouter.services.lookup name = m'.serviceRouter.services.lookup name
  /-- The ranges, in their order, or no command has ranges of two services. -/
  cmds : m.serviceRouter.cmds.entries = m'.serviceRouter.cmds.entries ∨
    ∀ cmd, SameCover m.serviceRouter.cmds m'.serviceRouter.cmds cmd

section Alike

variable {m m' : RouterManager}

/-- The walk finds ranges of one service. -/
theorem Agree.serviceOfCmd (h : Agree m m') (order : RangeOrder) (cmd : UInt32) :
    m.serviceRouter.serviceOfCmd order cmd = m'.serviceRouter.serviceOfCmd order cmd := by
  rcases h.cmds with hentries | hcover
  · unfold ServiceRouter.serviceOfCmd
    rw [hentries]
  have hcover := hcover cmd
  by_cases hnone : m'.serviceRouter.serviceOfCmd order cmd = ""
  · rw [hnone]
    rw [ServiceRouter.serviceOfCmd_eq_empty_iff] at hnone ⊢
    intro entry hentry hcovers
    obtain ⟨entry', hentry', hcovers'⟩ := hcover.covered.mp ⟨entry, hentry, hcovers⟩
    exact hnone entry' hentry' hcovers'
  · obtain ⟨entry', hentry', hcovers', hname'⟩ := ServiceRouter.exists_of_serviceOfCmd_ne hnone
    have hsome : m.serviceRouter.serviceOfCmd order cmd ≠ "" := by
      rw [Ne, ServiceRouter.serviceOfCmd_eq_empty_iff]
      intro hno
      obtain ⟨entry, hentry, hcovers⟩ := hcover.covered.mpr ⟨entry', hentry', hcovers'⟩
      exact hno entry hentry hcovers
    obtain ⟨entry, hentry, hcovers, hname⟩ := ServiceRouter.exists_of_serviceOfCmd_ne hsome
    rw [hname, hname']
    exact hcover.same entry hentry hcovers entry' hentry' hcovers'

/-- Managers that hold the same answer alike. -/
theorem Agree.answersAlike (h : Agree m m') : AnswersAlike m m' := by
  have hroute : ∀ method path, m.parseHttpRoute method path = m'.parseHttpRoute method path := by
    intro method path
    unfold RouterManager.parseHttpRoute HttpRouter.parseRoute
    rw [h.apiPrefix, h.routes _ (head_routePath _ path)]
  have hservice : ∀ name, m.findService name = m'.findService name := by
    intro name
    unfold RouterManager.findService ServiceRouter.findService
    rw [h.services]
  refine ⟨hroute, hservice, fun order cmd => ?_, fun method path => ?_⟩
  · unfold RouterManager.findServiceByCmd ServiceRouter.findServiceByCmd
    rw [h.serviceOfCmd, h.services]
  · unfold RouterManager.routeRequest
    simp only [hroute, hservice]

/-- What the empty path is answered with, when it is not valid, begins with another letter for a
prefix that is not empty. -/
theorem head_errMsg_empty (router : HttpRouter) (method : String) :
    ((router.parseRoute method "").errMsg.toList.head? = some 'P' ↔ router.apiPrefix ≠ "") ∧
      (router.apiPrefix ≠ "" → (router.parseRoute method "").errMsg =
        "Path does not match API prefix: " ++ router.apiPrefix) := by
  have hstarts : router.apiPrefix.toList <+: "".toList ↔ router.apiPrefix = "" := by
    rw [String.toList_empty, List.prefix_nil, String.toList_eq_nil_iff]
  unfold HttpRouter.parseRoute
  by_cases hempty : router.apiPrefix = ""
  · rw [if_neg (not_not.mpr (hstarts.mpr hempty))]
    refine ⟨iff_of_false ?_ (not_not.mpr hempty), fun h => absurd hempty h⟩
    cases router.routes.lookup (HttpRouter.routePath router.apiPrefix "") with
    | none =>
      rw [String.toList_append]
      simp
    | some route => simp [Route.result]
  · rw [if_pos (mt hstarts.mp hempty)]
    refine ⟨iff_of_true ?_ hempty, fun _ => rfl⟩
    rw [String.toList_append]
    rfl

/-- Managers that answer alike have the same prefix: the empty path tells. -/
theorem AnswersAlike.apiPrefix (h : AnswersAlike m m') :
    m.httpRouter.apiPrefix = m'.httpRouter.apiPrefix := by
  have hsame : (m.httpRouter.parseRoute "GET" "").errMsg =
      (m'.httpRouter.parseRoute "GET" "").errMsg :=
    congrArg HttpRouteResult.errMsg (h.parseHttpRoute "GET" "")
  obtain ⟨hhead, htext⟩ := head_errMsg_empty m.httpRouter "GET"
  obtain ⟨hhead', htext'⟩ := head_errMsg_empty m'.httpRouter "GET"
  have hboth : m.httpRouter.apiPrefix ≠ "" ↔ m'.httpRouter.apiPrefix ≠ "" := by
    rw [← hhead, ← hhead', hsame]
  by_cases hempty : m.httpRouter.apiPrefix = ""
  · rw [hempty, not_not.mp (mt hboth.mpr (not_not.mpr hempty))]
  · rw [htext hempty, htext' (hboth.mp hempty)] at hsame
    exact (String.append_right_inj _).mp hsame

/-- They have the same routes. -/
theorem AnswersAlike.routes (h : AnswersAlike m m') (path : String)
    (hpath : path.toList.head? = some '/') :
    m.httpRouter.routes.lookup path = m'.httpRouter.routes.lookup path := by
  refine Option.ext fun route => ?_
  rw [← parseRoute_append_iff hpath "GET", ← parseRoute_append_iff hpath "GET", h.apiPrefix]
  exact Eq.congr_left (h.parseHttpRoute "GET" _)

/-- They have the same services. -/
theorem AnswersAlike.services (h : AnswersAlike m m') (name : String) :
    m.serviceRouter.services.lookup name = m'.serviceRouter.services.lookup name := by
  have hsame : m.serviceRouter.findService name = m'.serviceRouter.findService name :=
    h.findService name
  refine Option.ext fun service => ⟨fun hheld => ?_, fun hheld => ?_⟩
  · have hname := m.serviceRouter.named hheld
    rw [← findService_iff hname] at hheld ⊢
    rw [← hsame, hheld]
  · have hname := m'.serviceRouter.named hheld
    rw [← findService_iff hname] at hheld ⊢
    rw [hsame, hheld]

/-- Alike answers to a command come from services of one name. -/
theorem AnswersAlike.serviceOfCmd (h : AnswersAlike m m') (order : RangeOrder) (cmd : UInt32) :
    m.serviceRouter.serviceOfCmd order cmd = m'.serviceRouter.serviceOfCmd order cmd := by
  rw [← ServiceRouter.findServiceByCmd_serviceName, ← ServiceRouter.findServiceByCmd_serviceName]
  exact congrArg ServiceRouteResult.serviceName (h.findServiceByCmd order cmd)

/-- Two managers with different tables of ranges answer alike only when a range of the one and a
range of the other that cover a command are of one service: some library walks them first. -/
theorem AnswersAlike.same_service (h : AnswersAlike m m')
    (hne : m.serviceRouter.cmds.entries ≠ m'.serviceRouter.cmds.entries) {cmd : UInt32}
    {entry entry' : (_ : CmdRange) × String} (hmem : entry ∈ m.serviceRouter.cmds.entries)
    (hcovers : Covers entry.1 cmd) (hmem' : entry' ∈ m'.serviceRouter.cmds.entries)
    (hcovers' : Covers entry'.1 cmd) : entry.2 = entry'.2 := by
  let pick (entries : List ((_ : CmdRange) × String)) : Option ((_ : CmdRange) × String) :=
    if entries = m.serviceRouter.cmds.entries then some entry else some entry'
  have hpick : pick m.serviceRouter.cmds.entries = some entry := if_pos rfl
  have hpick' : pick m'.serviceRouter.cmds.entries = some entry' := if_neg hne.symm
  calc entry.2
      _ = m.serviceRouter.serviceOfCmd (.leading pick) cmd :=
        (serviceOfCmd_leading hpick hmem hcovers).symm
      _ = m'.serviceRouter.serviceOfCmd (.leading pick) cmd := h.serviceOfCmd _ _
      _ = entry'.2 := serviceOfCmd_leading hpick' hmem' hcovers'

/-- They have ranges for the same commands. -/
theorem AnswersAlike.covered (h : AnswersAlike m m') (cmd : UInt32) :
    (∃ entry ∈ m.serviceRouter.cmds.entries, Covers entry.1 cmd) ↔
      ∃ entry ∈ m'.serviceRouter.cmds.entries, Covers entry.1 cmd := by
  rw [← not_iff_not]
  simp only [not_exists, not_and]
  rw [← ServiceRouter.serviceOfCmd_eq_empty_iff .inOrder,
    ← ServiceRouter.serviceOfCmd_eq_empty_iff .inOrder, h.serviceOfCmd]

/-- Two managers answer alike exactly when they hold the same, as far as a request can see it. -/
theorem answersAlike_iff_agree : AnswersAlike m m' ↔ Agree m m' := by
  refine ⟨fun h => ⟨h.apiPrefix, h.routes, h.services, ?_⟩, Agree.answersAlike⟩
  by_cases hne : m.serviceRouter.cmds.entries = m'.serviceRouter.cmds.entries
  · exact .inl hne
  · exact .inr fun cmd => ⟨fun entry hentry hcovers entry' hentry' hcovers' =>
      h.same_service hne hentry hcovers hentry' hcovers', h.covered cmd⟩

end Alike

/-! ## When a reload is like a restart -/

/-- What is looked up first in one table and then in another is what the other has, when it has all
that the one has. -/
theorem or_eq_right_iff {α : Type} {o f : Option α} :
    o.or f = f ↔ ∀ a, o = some a → f = some a := by
  cases o with
  | none => simp
  | some a => simp [eq_comm]

/-- The ranges after a reload against those of a start. -/
theorem sameCover_reload_iff {cmd : UInt32} :
    SameCover (manager.reloadConfig (some config)).2.serviceRouter.cmds
        (RouterManager.construct (some config)).serviceRouter.cmds cmd ↔
      OneService manager.serviceRouter.cmds
        (RouterManager.construct (some config)).serviceRouter.cmds cmd := by
  constructor
  · intro h
    refine ⟨fun entry hentry hcovers entry' hentry' hcovers' => ?_, fun entry hentry hcovers =>
      h.covered.mp ⟨entry, reload_cmds.mpr (.inl hentry), hcovers⟩⟩
    by_cases hkey : entry.1 ∈ manager.serviceRouter.cmds
    · -- The held range with the same ends is of the service of both.
      obtain ⟨name, hname⟩ := Option.isSome_iff_exists.mp (AList.lookup_isSome.mpr hkey)
      have hheld := h.same ⟨entry.1, name⟩
        (reload_cmds.mpr (.inl (AList.mem_lookup_iff.mp hname))) hcovers
      rcases hentry with hentry | hentry
      · exact h.same entry (reload_cmds.mpr (.inl hentry)) hcovers entry' hentry' hcovers'
      · exact (hheld entry hentry hcovers).symm.trans (hheld entry' hentry' hcovers')
    · have hmem : entry ∈ (manager.reloadConfig (some config)).2.serviceRouter.cmds.entries :=
        reload_cmds.mpr (hentry.imp_right fun hnew => ⟨hnew, hkey⟩)
      exact h.same entry hmem hcovers entry' hentry' hcovers'
  · intro h
    refine ⟨fun entry hentry hcovers entry' hentry' hcovers' => ?_, ?_, ?_⟩
    · exact h.same entry ((reload_cmds.mp hentry).imp_right And.left) hcovers entry' hentry'
        hcovers'
    · rintro ⟨entry, hentry, hcovers⟩
      rcases reload_cmds.mp hentry with hheld | ⟨hnew, -⟩
      · exact h.covered entry hheld hcovers
      · exact ⟨entry, hnew, hcovers⟩
    · rintro ⟨entry, hentry, hcovers⟩
      by_cases hkey : entry.1 ∈ manager.serviceRouter.cmds
      · obtain ⟨name, hname⟩ := Option.isSome_iff_exists.mp (AList.lookup_isSome.mpr hkey)
        exact ⟨⟨entry.1, name⟩, reload_cmds.mpr (.inl (AList.mem_lookup_iff.mp hname)), hcovers⟩
      · exact ⟨entry, reload_cmds.mpr (.inr ⟨hentry, hkey⟩), hcovers⟩

/-- A reload answers as a restart does exactly when the file has what the manager held. -/
theorem answersAlike_iff {file : Option ConfigManager}
    (hok : (manager.reloadConfig file).1 = true) :
    AnswersAlike (manager.reloadConfig file).2 (.construct file) ↔
      PartOf manager (.construct file) := by
  rcases file with _ | config
  · exact absurd hok (by simp [RouterManager.reloadConfig, HttpRouter.loadConfig])
  rw [answersAlike_iff_agree]
  constructor
  · intro h
    refine ⟨fun path route hpath => ?_, fun name => ?_, ?_⟩
    · exact or_eq_right_iff.mp ((reload_routes path).symm.trans (h.routes path hpath)) route
    · exact or_eq_right_iff.mp ((reload_services name).symm.trans (h.services name))
    · exact h.cmds.imp reload_cmds_eq_iff.mp fun hcover cmd => sameCover_reload_iff.mp (hcover cmd)
  · intro h
    refine ⟨(reload_tables manager config).1, fun path hpath => ?_, fun name => ?_, ?_⟩
    · rw [reload_routes]
      exact or_eq_right_iff.mpr fun route => h.routes path route hpath
    · rw [reload_services]
      exact or_eq_right_iff.mpr (h.services name)
    · exact h.cmds.imp reload_cmds_eq_iff.mpr fun hone cmd => sameCover_reload_iff.mpr (hone cmd)

/-- The manager that was started on a file and reloaded others since. -/
def reloaded (first : Option ConfigManager) (files : List (Option ConfigManager)) : RouterManager :=
  run (fun manager file => (manager.reloadConfig file).2) (.construct first) files

/-- After any reloads, one more that succeeds is like a restart exactly when the file has what the
manager held. -/
theorem reload_like_restart_iff (first : Option ConfigManager) (files : List (Option ConfigManager))
    (file : Option ConfigManager) (hok : ((reloaded first files).reloadConfig file).1 = true) :
    AnswersAlike ((reloaded first files).reloadConfig file).2 (.construct file) ↔
      PartOf (reloaded first files) (.construct file) :=
  answersAlike_iff hok

/-- `get` as the JSON library documents it, on values that are no fractions. -/
def documentedGet : Json → Option UInt32
  | .integer n => some (.ofInt n)
  | .bool b => some (if b then 1 else 0)
  | _ => none

/-- A file with one route, and one service at the endpoint. -/
def userConfig (path endpoint : String) : ConfigManager where
  json := .object
    [("http_router", .object
      [("routes", .array [.object
        [("path", .string path), ("cmd_id", .integer 1001),
          ("service_name", .string "user_service")]])]),
     ("service_router", .object
      [("services", .array [.object
        [("service_name", .string "user_service"), ("endpoint", .string endpoint),
          ("cmd_range", .array [.integer 1000, .integer 1099])]])])]
  getUint32 := documentedGet

/-- The service moves to another endpoint. -/
theorem reload_like_restart_iff_moved :
    ((reloaded (some (userConfig "/login" "localhost:8001")) []).reloadConfig
        (some (userConfig "/login" "localhost:9001"))).1 = true ∧
      (AnswersAlike ((reloaded (some (userConfig "/login" "localhost:8001")) []).reloadConfig
          (some (userConfig "/login" "localhost:9001"))).2
          (.construct (some (userConfig "/login" "localhost:9001"))) ↔
        PartOf (reloaded (some (userConfig "/login" "localhost:8001")) [])
          (.construct (some (userConfig "/login" "localhost:9001")))) := by
  have hok : ((reloaded (some (userConfig "/login" "localhost:8001")) []).reloadConfig
      (some (userConfig "/login" "localhost:9001"))).1 = true := by decide
  exact ⟨hok, reload_like_restart_iff _ _ _ hok⟩

/-- The reload succeeds, but the service is still found at the endpoint that it left, and the route
that was removed is still there. -/
theorem reload_keeps_endpoint :
    ((reloaded (some (userConfig "/login" "localhost:8001")) []).reloadConfig
        (some (userConfig "/signin" "localhost:9001"))).1 = true ∧
      ¬ AnswersAlike ((reloaded (some (userConfig "/login" "localhost:8001")) []).reloadConfig
          (some (userConfig "/signin" "localhost:9001"))).2
        (.construct (some (userConfig "/signin" "localhost:9001"))) ∧
      (((reloaded (some (userConfig "/login" "localhost:8001")) []).reloadConfig
        (some (userConfig "/signin" "localhost:9001"))).2.parseHttpRoute "POST"
          "/api/v1/login").statusCode = 200 ∧
      ((RouterManager.construct (some (userConfig "/signin" "localhost:9001"))).parseHttpRoute
        "POST" "/api/v1/login").statusCode = 404 := by
  have hstale : (((reloaded (some (userConfig "/login" "localhost:8001")) []).reloadConfig
      (some (userConfig "/signin" "localhost:9001"))).2.findService "user_service").endpoint ≠
      ((RouterManager.construct (some (userConfig "/signin" "localhost:9001"))).findService
        "user_service").endpoint := by decide +kernel
  refine ⟨by decide +kernel, fun h => hstale ?_, by decide +kernel, by decide +kernel⟩
  exact congrArg ServiceRouteResult.endpoint (h.findService "user_service")

end MyChat.Router
