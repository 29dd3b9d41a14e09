/-!
The journal: what the program reports while it works.

An entry has a level, the component that reports, and a message. A state that keeps a journal says
how it takes an entry (`Recording`), and nothing in the library ever reads the journal back.
-/

set_option autoImplicit false
set_option relaxedAutoImplicit false

namespace FormCatalog

/-- How much an entry matters. -/
inductive Level where
  | debug
  | info
  | warning
  | error
  deriving DecidableEq, Repr

/-- The level's name in the log. -/
def Level.name : Level → String
  | debug => "DEBUG"
  | info => "INFO"
  | warning => "WARNING"
  | error => "ERROR"

/-- The part of the program that reports. -/
inductive Component where
  | snapshot
  | comparison
  | pass
  | gate
  | trigger
  | scheduler
  | notice
  | downloads
  | shelf
  | web
  | app
  | commandLine
  deriving DecidableEq, Repr

/-- The component's name in the log. -/
def Component.name : Component → String
  | snapshot => "formsync.services.catalog_service"
  | comparison => "formsync.services.diff_service"
  | pass => "formsync.services.sync_service"
  | gate => "formsync.services.sync_status_service"
  | trigger => "formsync.services.trigger_service"
  | scheduler => "formsync.services.scheduler_service"
  | notice => "formsync.services.notification_service"
  | downloads => "formsync.storage.form_downloader"
  | shelf => "formsync.storage.sql_form_store"
  | web => "formsync.openrosa.http_api"
  | app => "formsync.main"
  | commandLine => "cli.formsync_cli"

/-- One report. -/
structure Entry where
  level : Level
  component : Component
  message : String
  deriving DecidableEq, Repr

/-- States that keep a journal. -/
class Recording (σ : Type) where
  record : Entry → σ → σ

end FormCatalog
