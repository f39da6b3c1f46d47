import MyChat.Gateway.RouterReload

/-!
# Reloads that fail

`reload_config` reports a failure when one of the two `load_config`s ended with an exception. By
then the prefix is replaced, the tables hold what came before the item that threw, and the other
router has loaded all of its part: nothing is taken back.

`failed_reload_iff` says when that is not seen: exactly when the file, up to where reading it ended,
says nothing that the manager did not answer already. What the file says up to there is what a
manager holds that was started on it. A file that cannot be parsed is not looked at, and one that
cannot be opened counts as empty, which is no failure.
-/

namespace MyChat.Router

open Emplace

/-- A second table adds no range for the command that is not seen through: the ranges that cover it
are of one service, and one of them was there. -/
structure Redundant (cmds new : AList fun _ : CmdRange => String) (cmd : UInt32) : Prop where
  /-- One service. -/
  same : ∀ entry, entry ∈ cmds.entries ∨ entry ∈ new.entries ∧ entry.1 ∉ cmds →
    Covers entry.1 cmd → ∀ entry' ∈ cmds.entries, Covers entry'.1 cmd → entry.2 = entry'.2
  /-- A range that was there. -/
  covered : ∀ entry ∈ new.entries, Covers entry.1 cmd →
    ∃ entry' ∈ cmds.entries, Covers entry'.1 cmd

/-- What was read of a file, which is what `read` holds, says nothing new to the manager. -/
structure SaysNothingNew (manager read : RouterManager) : Prop where
  /-- Its prefix is the manager's. -/
  apiPrefix : read.httpRouter.apiPrefix = manager.httpRouter.apiPrefix
  /-- Its paths, as far as a request can have them, have routes. -/
  routes : ∀ path ∈ read.httpRouter.routes, path.toList.head? = some '/' →
    path ∈ manager.httpRouter.routes
  /-- Its services have entries. -/
  services : ∀ name ∈ read.serviceRouter.services, name ∈ manager.serviceRouter.services
  /-- Its ranges have entries, or no command has ranges of two services. -/
  cmds : (∀ range ∈ read.serviceRouter.cmds, range ∈ manager.serviceRouter.cmds) ∨
    ∀ cmd, Redundant manager.serviceRouter.cmds read.serviceRouter.cmds cmd

variable {manager : RouterManager} {config : ConfigManager}

/-- What is looked up first in one table and then in another is what the one has, when the other has
nothing that the one has not. -/
theorem or_eq_left_iff {α : Type} {o f : Option α} :
    o.or f = o ↔ (f.isSome = true → o.isSome = true) := by
  cases o with
  | none => simp
  | some a => simp

/-- The ranges after a reload against those before. -/
theorem sameCover_before_iff {cmd : UInt32} :
    SameCover (manager.reloadConfig (some config)).2.serviceRouter.cmds
        manager.serviceRouter.cmds cmd ↔
      Redundant manager.serviceRouter.cmds
        (RouterManager.construct (some config)).serviceRouter.cmds cmd := by
  constructor
  · intro h
    refine ⟨fun entry hentry => h.same entry (reload_cmds.mpr hentry),
      fun entry hentry hcovers => ?_⟩
    -- A range that the file has was there already, or is added and must be seen through.
    by_cases hkey : entry.1 ∈ manager.serviceRouter.cmds
    · obtain ⟨name, hname⟩ := Option.isSome_iff_exists.mp (AList.lookup_isSome.mpr hkey)
      exact ⟨⟨entry.1, name⟩, AList.mem_lookup_iff.mp hname, hcovers⟩
    · exact h.covered.mp ⟨entry, reload_cmds.mpr (.inr ⟨hentry, hkey⟩), hcovers⟩
  · intro h
    refine ⟨fun entry hentry => h.same entry (reload_cmds.mp hentry), ?_, ?_⟩
    · rintro ⟨entry, hentry, hcovers⟩
      rcases reload_cmds.mp hentry with hheld | ⟨hnew, -⟩
      · exact ⟨entry, hheld, hcovers⟩
      · exact h.covered entry hnew hcovers
    · rintro ⟨entry, hentry, hcovers⟩
      exact ⟨entry, reload_cmds.mpr (.inl hentry), hcovers⟩

/-- The table of ranges stays as it was exactly when it has all ranges that were read. -/
theorem entries_reload_eq_iff :
    (manager.reloadConfig (some config)).2.serviceRouter.cmds.entries =
        manager.serviceRouter.cmds.entries ↔
      ∀ range ∈ (RouterManager.construct (some config)).serviceRouter.cmds,
        range ∈ manager.serviceRouter.cmds := by
  obtain ⟨-, -, -, ⟨cmds, hreload, hconstruct⟩⟩ := reload_tables manager config
  rw [hreload, hconstruct]
  exact entries_emplaceAll_eq_iff

/-- The manager holds the same after a reload, as far as a request can see it, exactly when what was
read of the file says nothing new. -/
theorem agree_before_iff :
    Agree (manager.reloadConfig (some config)).2 manager ↔
      SaysNothingNew manager (.construct (some config)) := by
  -- Of the paths and the services, those stay that were there; a new one shows.
  have hroutes : ∀ path, (manager.reloadConfig (some config)).2.httpRouter.routes.lookup path =
        manager.httpRouter.routes.lookup path ↔
      (path ∈ (RouterManager.construct (some config)).httpRouter.routes →
        path ∈ manager.httpRouter.routes) := by
    intro path
    rw [reload_routes, or_eq_left_iff, AList.lookup_isSome, AList.lookup_isSome]
  have hservices : ∀ name,
      (manager.reloadConfig (some config)).2.serviceRouter.services.lookup name =
        manager.serviceRouter.services.lookup name ↔
      (name ∈ (RouterManager.construct (some config)).serviceRouter.services →
        name ∈ manager.serviceRouter.services) := by
    intro name
    rw [reload_services, or_eq_left_iff, AList.lookup_isSome, AList.lookup_isSome]
  have hsame := (reload_tables manager config).1
  constructor
  · intro h
    refine ⟨hsame.symm.trans h.apiPrefix, fun path hmem hpath => ?_, fun name => ?_, ?_⟩
    · exact (hroutes path).mp (h.routes path hpath) hmem
    · exact (hservices name).mp (h.services name)
    · exact h.cmds.imp entries_reload_eq_iff.mp fun hcover cmd =>
        sameCover_before_iff.mp (hcover cmd)
  · intro h
    refine ⟨hsame.trans h.apiPrefix, fun path hpath => ?_, fun name => ?_, ?_⟩
    · exact (hroutes path).mpr fun hmem => h.routes path hmem hpath
    · exact (hservices name).mpr (h.services name)
    · exact h.cmds.imp entries_reload_eq_iff.mpr fun hred cmd =>
        sameCover_before_iff.mpr (hred cmd)

/-- A reload changes no answer exactly when the file was not looked at or, up to where reading it
ended, says nothing new. -/
theorem answersAlike_before_iff (manager : RouterManager) (file : Option ConfigManager) :
    AnswersAlike (manager.reloadConfig file).2 manager ↔
      ∀ config ∈ file, SaysNothingNew manager (.construct (some config)) := by
  rcases file with _ | config
  · -- A file that cannot be parsed leaves everything as it was.
    refine iff_of_true ?_ (by simp)
    exact Agree.answersAlike ⟨rfl, fun _ _ => rfl, fun _ => rfl, .inl rfl⟩
  · rw [answersAlike_iff_agree, agree_before_iff]
    simp

/-- A reload that fails changes no answer exactly when the file was not looked at or, up to where
reading it ended, says nothing new. -/
theorem failed_reload_iff (manager : RouterManager) (file : Option ConfigManager) :
    ((manager.reloadConfig file).1 = false →
        AnswersAlike (manager.reloadConfig file).2 manager) ↔
      ((manager.reloadConfig file).1 = false →
        ∀ config ∈ file, SaysNothingNew manager (.construct (some config))) :=
  imp_congr_right fun _ => answersAlike_before_iff manager file

/-- A file with another prefix, and a second service whose range is short. -/
def shortRangeConfig : ConfigManager where
  json := .object
    [("http_router", .object [("api_prefix", .string "/v2"), ("routes", .array [])]),
     ("service_router", .object
      [("services", .array [
        .object
          [("service_name", .string "push_service"), ("endpoint", .string "localhost:8002"),
            ("cmd_range", .array [.integer 2000, .integer 2099])],
        .object
          [("service_name", .string "group_service"), ("endpoint", .string "localhost:8003"),
            ("cmd_range", .array [.integer 3000])]])])]
  getUint32 := documentedGet

/-- The reload fails at the short range, but a route that was found is not found any more, and a
service is found that was not. -/
theorem failed_reload_changes :
    let manager := RouterManager.construct (some (userConfig "/login" "localhost:8001"))
    (manager.reloadConfig (some shortRangeConfig)).1 = false ∧
      ¬ AnswersAlike (manager.reloadConfig (some shortRangeConfig)).2 manager ∧
      (manager.parseHttpRoute "POST" "/api/v1/login").statusCode = 200 ∧
      ((manager.reloadConfig (some shortRangeConfig)).2.parseHttpRoute "POST"
        "/api/v1/login").statusCode = 404 ∧
      (manager.findService "push_service").isValid = false ∧
      ((manager.reloadConfig (some shortRangeConfig)).2.findService "push_service").isValid =
        true := by
  intro manager
  -- The prefix was replaced before the range threw, so that the old paths are cut off elsewhere.
  have hstale : (manager.parseHttpRoute "POST" "/api/v1/login").statusCode = 200 := by
    decide +kernel
  have hlost : ((manager.reloadConfig (some shortRangeConfig)).2.parseHttpRoute "POST"
      "/api/v1/login").statusCode = 404 := by decide +kernel
  refine ⟨by decide +kernel, fun h => ?_, hstale, hlost, by decide +kernel, by decide +kernel⟩
  rw [h.parseHttpRoute, hstale] at hlost
  exact absurd hlost (by decide)

end MyChat.Router
