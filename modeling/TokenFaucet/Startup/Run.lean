import TokenFaucet.Config.Error
import TokenFaucet.Ledger.Store
import TokenFaucet.Networks.Load
import TokenFaucet.Server.Basic
import TokenFaucet.Startup.SocketAddress

set_option autoImplicit false

namespace TokenFaucet

inductive StartupError where
  | config (why : ConfigError)
  | ledger (why : Ledger.Error)
  | badAddress (text : String)
  /-- The address cannot be listened at. -/
  | system (reason : String)

def StartupError.message : StartupError → String
  | config why => why.message
  | ledger why => s!"failed to open ledger: {why.message}"
  | badAddress text => s!"invalid bind address {text}"
  | system reason => s!"server error: {reason}"

namespace Startup

/-- A question of the process to the world that it runs in. -/
inductive Query where
  | networks (q : Networks.Query)
  | readText (path : String)
  | openLedger (path : String)
  | listen (address : SocketAddress)
  /-- Serves until the process is told to stop. -/
  | serve (server : Server)

def Query.Answer : Query → Type
  | networks q => q.Answer
  | readText _ => Except String String
  | openLedger _ => Except Ledger.Error Unit
  | listen _ => Except String Unit
  | serve _ => Unit

abbrev Session (α : Type) := Dialogue Query Query.Answer α

/-- A program of the process that may fail. -/
abbrev Attempt (α : Type) := ExceptT StartupError (Dialogue Query Query.Answer) α

/-- A program that uses networks and takes notes. -/
def ofNetworks {α : Type} (program : Networks.Session α) : Session α :=
  program.embed .networks fun _ r => r

def note (e : Event) : Session Unit :=
  ofNetworks (Networks.note e)

/-- Asks the world, and goes on with the answer. -/
def ask (q : Query) : Attempt q.Answer :=
  ExceptT.lift (Dialogue.query q)

def readLayout (path : String) : Attempt Layout := do
  let read : Except String String ← ask (.readText path)
  let text ← read.mapError fun reason => StartupError.config (.unreadableFile path reason)
  let layout ← (Layout.parse text).mapError fun why => StartupError.config (.layout why)
  return layout

/-- Sets up and checks the networks of a layout. -/
def loadNetworks (l : Layout) (s : Settings) : Attempt Networks :=
  ExceptT.mk do
    let r ← ofNetworks (Networks.load l s.secrets (s.timeout * 1000))
    return r.mapError .config

def join (directory name : String) : String :=
  if directory.endsWith "/" then directory ++ name else directory ++ "/" ++ name

/-- The file of the ledger in the data directory. -/
def ledgerFile : String := "ledger.redb"

/-- Opens the ledger in the data directory. -/
def openLedger (s : Settings) : Attempt Unit := do
  let opened : Except Ledger.Error Unit ← ask (.openLedger (join s.dataDirectory ledgerFile))
  opened.mapError StartupError.ledger

/-- The doorman of the settings; without one nobody is let in. -/
def doormanOf (s : Settings) : Attempt (Option Doorman) := do
  match s.doormanUrl with
  | some address =>
    let doorman ← (Doorman.ofAddress address).mapError fun why =>
      StartupError.config (.setting why)
    return some doorman
  | none =>
    note (.warn "DOORMAN_URL not set, authenticated endpoints will reject requests" none)
    return none

/-- Listens at the address of the settings. -/
def listen (s : Settings) : Attempt Unit := do
  let text := s!"{s.host}:{s.port}"
  match SocketAddress.parse? text with
  | none => throw (.badAddress text)
  | some address =>
    let listening : Except String Unit ← ask (.listen address)
    listening.mapError StartupError.system

/-- The life of the server, as far as nothing goes wrong. -/
def live (lookup : String → Option String) : Attempt Unit := do
  let settings ← (Settings.read lookup).mapError fun why => StartupError.config (.setting why)
  let layout ← readLayout settings.layoutPath
  note (.info "Network layout loaded")
  let networks ← loadNetworks layout settings
  openLedger settings
  note (.info "Balance ledger opened")
  let doorman ← doormanOf settings
  listen settings
  note (.info "Faucet server listening (docs at /docs)")
  ask (.serve ⟨⟨networks.chains, networks.tokens⟩, doorman, some settings.dataDirectory⟩)
  note (.info "Shutdown signal received")
  note (.info "Faucet server stopped")

/-- The life of the server; the result is the exit code of the process. -/
def run (lookup : String → Option String) : Session UInt32 := do
  match ← (live lookup).run with
  | .ok () => return 0
  | .error e =>
    note (.failure "Faucet server failed" e.message)
    return 1

end Startup

end TokenFaucet
