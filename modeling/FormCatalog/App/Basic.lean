import FormCatalog.App.Database
import FormCatalog.Shelf.Basic
import FormCatalog.Trigger.Basic
import FormCatalog.Web.FormServer

/-!
The whole program put together.

An app is made from settings on a machine: it opens the database, makes a client for the server, and
then has a catalog, a gate, a scheduler and a trigger. `Machine` is what an app finds and leaves
behind: a disk, the tables of the databases on it, and a network.
-/

set_option autoImplicit false
set_option relaxedAutoImplicit false

namespace FormCatalog

/-- What apps find and leave behind. -/
structure Machine (N : Type) where
  disk : Disk
  /-- The tables of the databases, by the places of their files. -/
  tables : List (Place × Table) := []
  net : N

/-- The world of an app. -/
structure AppWorld (N : Type) where
  scheduler : Scheduler
  site : Site (Web N)

instance {N : Type} : Recording (AppWorld N) where
  record e w := { w with site := Recording.record e w.site }

/-- The state of an app. -/
abbrev AppState (N : Type) := Station (AppWorld N)

/-- What an app is made of, apart from its state. -/
structure App (N : Type) where
  settings : Settings
  wire : Wire N
  /-- Where the database is, if it is in a file. -/
  database : Option Place

namespace App

variable {N : Type} (app : App N)

/-- The server of an app. -/
def server : FormServer N := ⟨app.settings.formListPath, app.wire⟩

/-- Where an app keeps its forms. -/
def forms : FormsDirectory := ⟨app.settings.formsDir⟩

/-- The catalog of an app. -/
def catalog : Catalog (Site (Web N)) :=
  ⟨app.server.side, Shelf.device app.server.download app.forms⟩

/-- Runs a program of the catalog. -/
def onSite {α : Type} (x : Op (Site (Web N)) α) : Op (AppState N) α :=
  Station.inWorld (Op.within (·.site) (fun s w ↦ { w with site := s }) x)

/-- The scheduler of a state. -/
def schedulerOf (s : AppState N) : Scheduler := s.world.scheduler

/-- A state with another scheduler. -/
def withScheduler (scheduler : Scheduler) (s : AppState N) : AppState N :=
  { s with world := { s.world with scheduler := scheduler } }

/-- How an app runs work: at once in the pool, again and again under a tag. -/
def scheduling : Scheduling (AppState N) where
  immediate work := do
    Op.ofExcept (schedulerOf (← get)).checkAccepting
    Op.attempt work
  recurring tag interval := Scheduler.scheduleIn schedulerOf withScheduler tag interval
  cancel tag := Scheduler.cancelIn schedulerOf withScheduler tag

/-- One pass. -/
def pass : Op (AppState N) Unit := do
  let _ ← onSite app.catalog.synchronize

/-- Runs a pass, unless one is running. -/
def runOnce : Op (AppState N) (Option Bool) := Trigger.runOnce app.pass

/-- Starts a pass in the background, unless one is running. -/
def startPass : Op (AppState N) (Option (Except Fault Bool)) := Trigger.start scheduling app.pass

/-- Sets the update mode. -/
def setMode (mode : UpdateMode) (interval : Number.Binary64) : Op (AppState N) Unit :=
  Trigger.setMode scheduling mode interval

/-- What a pass would change. -/
def preview : Op (AppState N) Plan := onSite app.catalog.preview

/-- Stops all work and closes the client. -/
def close : Op (AppState N) Unit := do
  Scheduler.shutdownIn schedulerOf withScheduler
  onSite FormServer.close

/-- The table of a database. -/
def tableAt (tables : List (Place × Table)) (database : Option Place) : Table :=
  match database with
  | none => []
  | some place => ((tables.find? (·.1 = place)).map (·.2)).getD []

/-- Makes an app and its first state. -/
def create (settings : Settings) (wire : Wire N) : EStateM Fault (Machine N) (App N × AppState N) :=
  fun m ↦
    match Database.openAt settings.databaseUrl m.disk with
    | .error fault disk => .error fault { m with disk := disk }
    | .ok database disk =>
      let m := { m with disk := disk }
      let signIn := SignIn.of settings.username settings.password settings.authScheme
      match Client.of (FormServer.baseAddress settings.serverUrl) signIn with
      | .error fault => .error (.badUrl fault.message) m
      | .ok client =>
        match Scheduler.ofSize settings.syncWorkers with
        | .error fault => .error fault m
        | .ok scheduler =>
          let opened : Entry := ⟨.debug, .app, "Form sync configured for " ++ settings.serverUrl
            ++ " (mode=" ++ settings.updateMode.name ++ ")"⟩
          let site : Site (Web N) := ⟨disk, tableAt m.tables database, ⟨client, m.net⟩, [opened]⟩
          let state : AppState N := { mode := settings.updateMode, world := ⟨scheduler, site⟩ }
          .ok (⟨settings, wire, database⟩, state) m

/-- What an app leaves behind. -/
def leave (s : AppState N) (m : Machine N) : Machine N where
  disk := s.world.site.disk
  tables :=
    match app.database with
    | none => m.tables
    | some place => (place, s.world.site.table) :: m.tables.filter (·.1 ≠ place)
  net := s.world.site.net.net

end App

end FormCatalog
