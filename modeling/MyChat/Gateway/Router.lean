import Mathlib.Data.Int.Notation
import MyChat.Lib.Emplace

/-!
# The router

`HttpRouter`, `ServiceRouter`, and `RouterManager` of `gateway/router/router.mgr.cpp`, and what they
use of `ConfigManager` (`common/utils/config_mgr.hpp`). The configuration file is the JSON value
that it holds, and what the JSON library makes of the numbers in it.

A load goes through the items of an array. It skips an item that is empty or incomplete, and ends
with an exception at one with a field of another type; what it put into the tables before stays
there.
-/

namespace MyChat.Router

open Emplace

/-! ## `ConfigManager` -/

/-- A value of the JSON library. -/
inductive Json where
  /-- `null`. -/
  | null
  /-- `true` or `false`. -/
  | bool (b : Bool)
  /-- An integer. -/
  | integer (n : ℤ)
  /-- A number with a fraction or an exponent, as its text. -/
  | real (literal : String)
  /-- A string. -/
  | string (s : String)
  /-- An array. -/
  | array (items : List Json)
  /-- An object. -/
  | object (fields : List (String × Json))

namespace Json

/-- `empty`. -/
def isEmpty : Json → Bool
  | null => true
  | array items => items.isEmpty
  | object fields => fields.isEmpty
  | _ => false

/-- The member that a token of a JSON pointer names. -/
def child (token : String) : Json → Option Json
  | object fields => fields.lookup token
  | _ => none

/-- `get<std::string>`; `none` when it throws. -/
def getString : Json → Option String
  | string s => some s
  | _ => none

/-- `value`: the field, or the default when it is absent; `none` when it throws. -/
def value {α : Type} (get : Json → Option α) (key : String) (default : α) : Json → Option α
  | object fields =>
    match fields.lookup key with
    | none => some default
    | some item => get item
  | _ => none

end Json

/-- `ConfigManager`, with the conversion of the JSON library. -/
structure ConfigManager where
  /-- The JSON value of the file. -/
  json : Json
  /-- `get` of a value that ends up in a `uint32_t`; `none` when it throws. -/
  getUint32 : Json → Option UInt32

/-- `get` of an integer that a `uint32_t` holds is the integer, as the JSON library documents. -/
def ConfigManager.GetsIntegers (config : ConfigManager) : Prop :=
  ∀ n : UInt32, config.getUint32 (.integer n.toNat) = some n

/-- The value at a path of the configuration. -/
def atPath (config : ConfigManager) (path : List String) : Option Json :=
  path.foldl (fun json token => json.bind (Json.child token)) (some config.json)

/-- `ConfigManager::get<std::string>`. -/
def configString (config : ConfigManager) (path : List String) (default : String) : String :=
  ((atPath config path).bind Json.getString).getD default

/-- The items that `get_array_size` and `get_array_item` go through. -/
def configItems (config : ConfigManager) (path : List String) : List Json :=
  match atPath config path with
  | some (.array items) => items
  | _ => []

/-- The loop of the two `load_config`s over the items. `read` gives what an item says, nothing when
the item is skipped, and `none` when reading it throws, which ends the loop. -/
def loadItems {α σ : Type} (read : Json → Option (Option α)) (add : σ → α → σ) (s : σ) :
    List Json → Bool × σ
  | [] => (true, s)
  | item :: items =>
    match read item with
    | none => (false, s)
    | some none => loadItems read add s items
    | some (some a) => loadItems read add (add s a) items

/-! ## `HttpRouter` -/

/-- `HttpRouteResult`. -/
structure HttpRouteResult where
  /-- `cmd_id`. -/
  cmdId : UInt32 := 0
  /-- `service_name`. -/
  serviceName : String := ""
  /-- `is_valid`. -/
  isValid : Bool := false
  /-- `err_msg`. -/
  errMsg : String := ""
  /-- `status_code`. -/
  statusCode : ℕ := 404
  deriving DecidableEq, Repr

/-- A route: the command and the service of a path. -/
structure Route where
  /-- `cmd_id`. -/
  cmdId : UInt32
  /-- `service_name`. -/
  serviceName : String
  deriving DecidableEq, Repr

/-- The result that a route constructs. -/
def Route.result (route : Route) : HttpRouteResult where
  cmdId := route.cmdId
  serviceName := route.serviceName
  isValid := true
  statusCode := 200

/-- `HttpRouter`. -/
structure HttpRouter where
  /-- `api_prefix_`. -/
  apiPrefix : String
  /-- `routes_`. -/
  routes : AList fun _ : String => Route

namespace HttpRouter

/-- A router that has loaded nothing. -/
def empty : HttpRouter := ⟨"", ∅⟩

/-- The path and the route of an item of the configuration. -/
def readRoute (config : ConfigManager) (item : Json) : Option (Option (String × Route)) := do
  if item.isEmpty then return none
  else
    let path ← item.value Json.getString "path" ""
    let cmdId ← item.value config.getUint32 "cmd_id" 0
    let serviceName ← item.value Json.getString "service_name" ""
    if path = "" ∨ cmdId = 0 ∨ serviceName = "" then return none
    else return some (path, ⟨cmdId, serviceName⟩)

/-- The default of `http_router.api_prefix`. -/
def defaultApiPrefix : String := "/api/v1"

/-- `load_config`, on what the file holds; `none` when `ConfigManager` cannot be constructed. -/
def loadConfig (router : HttpRouter) (file : Option ConfigManager) : Bool × HttpRouter :=
  match file with
  | none => (false, router)
  | some config =>
    let apiPrefix := configString config ["http_router", "api_prefix"] defaultApiPrefix
    let (ok, routes) := loadItems (readRoute config)
      (fun routes entry => emplace routes entry.1 entry.2) router.routes
      (configItems config ["http_router", "routes"])
    (ok, ⟨apiPrefix, routes⟩)

/-- The rest of a path after the prefix, made to begin with `/`. -/
def routePath (apiPrefix path : String) : String :=
  match path.toList.drop apiPrefix.toList.length with
  | '/' :: rest => String.ofList ('/' :: rest)
  | rest => String.ofList ('/' :: rest)

/-- `parse_route`, which does not look at the method. -/
def parseRoute (router : HttpRouter) (_method path : String) : HttpRouteResult :=
  if ¬ router.apiPrefix.toList <+: path.toList then
    { errMsg := "Path does not match API prefix: " ++ router.apiPrefix }
  else
    match router.routes.lookup (routePath router.apiPrefix path) with
    | none => { errMsg := "Route not found: " ++ routePath router.apiPrefix path }
    | some route => route.result

end HttpRouter

/-! ## `ServiceRouter` -/

/-- `ServiceRouteResult`. -/
structure ServiceRouteResult where
  /-- `service_name`. -/
  serviceName : String := ""
  /-- `endpoint`. -/
  endpoint : String := ""
  /-- `timeout_ms`. -/
  timeoutMs : UInt32 := 3000
  /-- `max_connections`. -/
  maxConnections : UInt32 := 10
  /-- `is_valid`. -/
  isValid : Bool := false
  /-- `err_msg`. -/
  errMsg : String := ""
  deriving DecidableEq, Repr

/-- A service of the configuration, which has a name. -/
structure Service where
  /-- `service_name`. -/
  serviceName : String
  /-- `endpoint`. -/
  endpoint : String
  /-- `timeout_ms`. -/
  timeoutMs : UInt32
  /-- `max_connections`. -/
  maxConnections : UInt32
  /-- The name is not empty. -/
  named : serviceName ≠ ""
  deriving DecidableEq

/-- The result that a service constructs. -/
def Service.result (service : Service) : ServiceRouteResult where
  serviceName := service.serviceName
  endpoint := service.endpoint
  timeoutMs := service.timeoutMs
  maxConnections := service.maxConnections
  isValid := true

/-- A range of commands, with its two ends. -/
abbrev CmdRange := UInt32 × UInt32

/-- The range has the command. -/
def Covers (range : CmdRange) (cmd : UInt32) : Prop := range.1 ≤ cmd ∧ cmd ≤ range.2

instance (range : CmdRange) (cmd : UInt32) : Decidable (Covers range cmd) :=
  inferInstanceAs (Decidable (_ ∧ _))

/-- An order in which the hash table of the ranges is walked. The library chooses it by what went
into the table, and nothing else fixes it. -/
structure RangeOrder where
  /-- The entries in that order. -/
  walk : List ((_ : CmdRange) × String) → List ((_ : CmdRange) × String)
  /-- Every entry is visited once. -/
  perm : ∀ entries, (walk entries).Perm entries

/-- The order of the entries themselves. -/
def RangeOrder.inOrder : RangeOrder := ⟨id, fun _ => .rfl⟩

/-- `ServiceRouter`. -/
structure ServiceRouter where
  /-- `services_`. -/
  services : AList fun _ : String => Service
  /-- `cmds_`. -/
  cmds : AList fun _ : CmdRange => String
  /-- A service is stored under its name. -/
  named : ∀ {name service}, services.lookup name = some service → service.serviceName = name
  /-- A range is of a service that is stored. -/
  listed : ∀ {range name}, cmds.lookup range = some name → name ∈ services

namespace ServiceRouter

/-- A router that has loaded nothing. -/
def empty : ServiceRouter where
  services := ∅
  cmds := ∅
  named h := by simp at h
  listed h := by simp at h

/-- `cmd_range` of an item: `(0, 0)` when it is no array, and an exception when its first two items
are not two numbers. -/
def readCmdRange (config : ConfigManager) (item : Json) : Option CmdRange := do
  match ← item.value some "cmd_range" (.array []) with
  | .array items =>
    let first ← config.getUint32 (items[0]?.getD .null)
    let second ← config.getUint32 (items[1]?.getD .null)
    return (first, second)
  | _ => return (0, 0)

/-- The range and the service of an item of the configuration. -/
def readService (config : ConfigManager) (item : Json) : Option (Option (CmdRange × Service)) := do
  if item.isEmpty then return none
  else
    let serviceName ← item.value Json.getString "service_name" ""
    let endpoint ← item.value Json.getString "endpoint" ""
    let timeoutMs ← item.value config.getUint32 "timeout_ms" 3000
    let maxConnections ← item.value config.getUint32 "max_connections" 10
    let range ← readCmdRange config item
    if h : serviceName = "" ∨ endpoint = "" then return none
    else return some (range, ⟨serviceName, endpoint, timeoutMs, maxConnections, fun hname =>
      h (.inl hname)⟩)

/-- The two `emplace`s of `load_config`. -/
def add (router : ServiceRouter) (entry : CmdRange × Service) : ServiceRouter where
  services := emplace router.services entry.2.serviceName entry.2
  cmds := emplace router.cmds entry.1 entry.2.serviceName
  named {name service} h := by
    rw [lookup_emplace] at h
    rcases Option.or_eq_some_iff.mp h with hold | ⟨-, hnew⟩
    · exact router.named hold
    · split_ifs at hnew with hname
      rw [← Option.some.inj hnew, hname]
  listed {range name} h := by
    rw [← AList.lookup_isSome, lookup_emplace, Option.isSome_or, Bool.or_eq_true]
    rw [lookup_emplace] at h
    rcases Option.or_eq_some_iff.mp h with hold | ⟨-, hnew⟩
    · exact .inl (AList.lookup_isSome.mpr (router.listed hold))
    · split_ifs at hnew with hrange
      rw [← Option.some.inj hnew, if_pos rfl]
      exact .inr rfl

/-- `load_config`. -/
def loadConfig (router : ServiceRouter) (file : Option ConfigManager) : Bool × ServiceRouter :=
  match file with
  | none => (false, router)
  | some config =>
    loadItems (readService config) add router (configItems config ["service_router", "services"])

/-- `find_service` by the name. -/
def findService (router : ServiceRouter) (serviceName : String) : ServiceRouteResult :=
  if serviceName = "" then { errMsg := "Service name is empty" }
  else
    match router.services.lookup serviceName with
    | none => { errMsg := "Service not found: " ++ serviceName }
    | some service => service.result

/-- The service of the first range on the walk that has the command; empty when there is none. -/
def serviceOfCmd (router : ServiceRouter) (order : RangeOrder) (cmd : UInt32) : String :=
  match (order.walk router.cmds.entries).find? fun entry => Covers entry.1 cmd with
  | none => ""
  | some entry => entry.2

/-- `find_service` by the command. -/
def findServiceByCmd (router : ServiceRouter) (order : RangeOrder) (cmd : UInt32) :
    ServiceRouteResult :=
  if router.serviceOfCmd order cmd = "" then { errMsg := "command not found" }
  else
    match router.services.lookup (router.serviceOfCmd order cmd) with
    -- `operator[]` of a missing key, which `listed` excludes.
    | none => { isValid := true }
    | some service => service.result

end ServiceRouter

/-! ## `RouterManager` -/

/-- `CompleteRouteResult`. -/
structure CompleteRouteResult where
  /-- `cmd_id`. -/
  cmdId : UInt32 := 0
  /-- `service_name`. -/
  serviceName : String := ""
  /-- `endpoint`. -/
  endpoint : String := ""
  /-- `timeout_ms`. -/
  timeoutMs : UInt32 := 3000
  /-- `max_connections`. -/
  maxConnections : UInt32 := 10
  /-- `is_valid`. -/
  isValid : Bool := false
  /-- `err_msg`. -/
  errMsg : String := ""
  /-- `http_status_code`. -/
  httpStatusCode : ℕ := 404
  deriving DecidableEq, Repr

/-- `RouterManager`. -/
structure RouterManager where
  /-- `http_router_`. -/
  httpRouter : HttpRouter
  /-- `service_router_`. -/
  serviceRouter : ServiceRouter

namespace RouterManager

/-- `reload_config`: both routers load the file, whether or not the first succeeds. -/
def reloadConfig (manager : RouterManager) (file : Option ConfigManager) : Bool × RouterManager :=
  let (httpOk, httpRouter) := manager.httpRouter.loadConfig file
  let (serviceOk, serviceRouter) := manager.serviceRouter.loadConfig file
  (httpOk && serviceOk, ⟨httpRouter, serviceRouter⟩)

/-- The constructor, which loads the file and does not look at the result. -/
def construct (file : Option ConfigManager) : RouterManager :=
  (reloadConfig ⟨.empty, .empty⟩ file).2

/-- `parse_http_route`. -/
def parseHttpRoute (manager : RouterManager) (method path : String) : HttpRouteResult :=
  manager.httpRouter.parseRoute method path

/-- `find_service` by the name. -/
def findService (manager : RouterManager) (serviceName : String) : ServiceRouteResult :=
  manager.serviceRouter.findService serviceName

/-- `find_service` by the command. -/
def findServiceByCmd (manager : RouterManager) (order : RangeOrder) (cmd : UInt32) :
    ServiceRouteResult :=
  manager.serviceRouter.findServiceByCmd order cmd

/-- `route_request`. -/
def routeRequest (manager : RouterManager) (method path : String) : CompleteRouteResult :=
  let http := manager.parseHttpRoute method path
  if ¬ http.isValid then { errMsg := http.errMsg, httpStatusCode := http.statusCode }
  else
    let service := manager.findService http.serviceName
    if ¬ service.isValid then { errMsg := service.errMsg, httpStatusCode := 503 }
    else
      { cmdId := http.cmdId
        serviceName := http.serviceName
        endpoint := service.endpoint
        timeoutMs := service.timeoutMs
        maxConnections := service.maxConnections
        isValid := true
        httpStatusCode := 200 }

end RouterManager

end MyChat.Router
