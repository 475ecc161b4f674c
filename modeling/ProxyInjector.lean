import ProxyInjector.Main
import ProxyInjector.Session.Step
import ProxyInjector.Proofs.Injection.Apply
import ProxyInjector.Proofs.Text.Blank
import ProxyInjector.Proofs.Url.Unescape
import ProxyInjector.Proofs.Injection.Routes
import ProxyInjector.Proofs.Injection.Unfinished
import ProxyInjector.Proofs.Routing.Surroundings
import ProxyInjector.Proofs.Program.Listening
import ProxyInjector.Proofs.Injection.Lines
import ProxyInjector.Proofs.Injection.Runs
import ProxyInjector.Proofs.Routing.Unlisted
import ProxyInjector.Proofs.Routing.Listed
import ProxyInjector.Proofs.Session.Kinds
import ProxyInjector.Proofs.Program.Logging
import ProxyInjector.Proofs.Program.Quiet
import ProxyInjector.Proofs.Program.Stores
import ProxyInjector.Proofs.Program.Histories
import ProxyInjector.Proofs.Program.Spelled
import ProxyInjector.Proofs.Address.Forms
import ProxyInjector.Proofs.Log.Files
import ProxyInjector.Proofs.Injection.Credentials
import ProxyInjector.Proofs.Address.Loopback
import ProxyInjector.Proofs.Routing.Patterns
import ProxyInjector.Proofs.Routing.Restarts
import ProxyInjector.Proofs.Routing.Entries
import ProxyInjector.Proofs.Session.Variables
import ProxyInjector.Proofs.Injection.Journal
import ProxyInjector.Proofs.Program.Groups
import ProxyInjector.Proofs.Version
import ProxyInjector.Proofs.Shell
import ProxyInjector.Proofs.CommandLine.Registries
