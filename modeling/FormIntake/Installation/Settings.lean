import FormIntake.Schema.Reading
import FormIntake.Calendar.Zone

/-! # Settings of an installation

What all forms of a site share: whether submissions are checked and saved, who the site is, the
addresses that templates may use, and how the program logs.
-/

namespace FormIntake.Installation

open Schema

structure Site where
  title : String := ""
  tagline : String := ""
  adminEmail : String := ""
  /-- The zone that dates and times are shown in. -/
  timezone : String := "UTC"
  deriving DecidableEq, Repr

structure EmailDefaults where
  address : String := ""
  name : String := ""
  fromAddress : String := ""
  fromName : String := ""
  deriving DecidableEq, Repr

/-- How important a log record has to be. -/
inductive LogLevel where
  | debug
  | info
  | warning
  | error
  | critical
  deriving DecidableEq, Repr

namespace LogLevel

def all : List LogLevel := [.debug, .info, .warning, .error, .critical]

def name : LogLevel → String
  | .debug => "DEBUG"
  | .info => "INFO"
  | .warning => "WARNING"
  | .error => "ERROR"
  | .critical => "CRITICAL"

end LogLevel

structure LogSettings where
  json : Bool := false
  level : LogLevel := .info
  deriving DecidableEq, Repr

structure Settings where
  csrfProtection : Bool := true
  saveEntries : Bool := true
  saveAddresses : Bool := true
  site : Site := {}
  email : EmailDefaults := {}
  logging : LogSettings := {}
  databaseUrl : Option String := none
  deriving DecidableEq, Repr

/-! ### Reading -/

/-- The name of a known time zone. -/
def zoneName : Reader String := fun v =>
  (text v).ensure fun name =>
    if Calendar.Zone.isKnown name then none else some (.refused ("Unknown timezone: " ++ name))

def Site.reader : Reader Site := record "SiteSettings" fun e =>
  Site.mk <$> may "title" "" text e
    <*> may "tagline" "" text e
    <*> may "admin_email" "" text e
    <*> may "timezone" "UTC" zoneName e

def EmailDefaults.reader : Reader EmailDefaults := record "EmailDefaults" fun e =>
  EmailDefaults.mk <$> may "default_email_address" "" text e
    <*> may "default_email_name" "" text e
    <*> may "default_from_email_address" "" text e
    <*> may "default_from_email_name" "" text e

def LogSettings.reader : Reader LogSettings := record "LoggingSettings" fun e =>
  LogSettings.mk <$> may "json_output" false bool e
    <*> may "level" .info (oneOf LogLevel.all LogLevel.name) e

def Settings.read (e : Entries) : Checked Settings :=
  Settings.mk <$> may "csrf_protection" true bool e
    <*> may "save_entries" true bool e
    <*> may "save_ip_addresses" true bool e
    <*> may "site" {} Site.reader e
    <*> may "email" {} EmailDefaults.reader e
    <*> may "logging" {} LogSettings.reader e
    <*> may "database_url" none (nullable text) e

def Settings.reader : Reader Settings := record "FormflowSettings" Settings.read

/-! ### Writing -/

def Site.toValue (site : Site) : Value :=
  .record [("title", .text site.title), ("tagline", .text site.tagline),
    ("admin_email", .text site.adminEmail), ("timezone", .text site.timezone)]

def EmailDefaults.toValue (email : EmailDefaults) : Value :=
  .record [("default_email_address", .text email.address),
    ("default_email_name", .text email.name),
    ("default_from_email_address", .text email.fromAddress),
    ("default_from_email_name", .text email.fromName)]

def LogSettings.toValue (log : LogSettings) : Value :=
  .record [("json_output", .bool log.json), ("level", .text log.level.name)]

def Settings.toValue (settings : Settings) : Value :=
  .record [("csrf_protection", .bool settings.csrfProtection),
    ("save_entries", .bool settings.saveEntries),
    ("save_ip_addresses", .bool settings.saveAddresses), ("site", settings.site.toValue),
    ("email", settings.email.toValue), ("logging", settings.logging.toValue),
    ("database_url", match settings.databaseUrl with | none => .null | some s => .text s)]

end FormIntake.Installation
