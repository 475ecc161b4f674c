import ProxyInjector.CommandLine.Reading
import ProxyInjector.CommandLine.Help
import ProxyInjector.Log.Logger
import ProxyInjector.Version

/-!
# The flags of the program

The command line names a proxy, a store to put it into, and how to log; two switches say how the
proxy is meant and what else to print.
-/

namespace ProxyInjector.Program

open CommandLine

/-- the names of the stores -/
def propertiesName : String := "properties"
def environmentName : String := "environ"

def proxyFlag : Flag where
  names := []
  target := "proxy"
  arity := .optional
  help := .text "Proxy to inject, formatted as HOST:PORT."

/-- a flag that takes no arguments and is off unless it is given -/
def switch (names : List String) (target help : String) : Flag where
  names := names
  target := target
  arity := .exactly 0
  action := .setConstant
  constant := .bool true
  default := some (.bool false)
  help := .text help

def versionFlag : Flag := switch ["--version", "-v"] "version" "Prints agentproxy version."

def levelFlag : Flag where
  names := ["--log-level"]
  target := "log_level"
  default := some (.text "WARNING")
  conversion := some .text
  help := .text ("Valid options: DEBUG, INFO, WARNING (default), ERROR, CRITICAL. Both upper and "
    ++ "lowercase values are allowed. You may also simply use the leading character e.g. "
    ++ "--log-level d")

def fileFlag : Flag where
  names := ["--log-file"]
  target := "log_file"
  conversion := some .text
  help := .text "Default: sys.stderr. Log file destination."

def formatFlag : Flag where
  names := ["--log-format"]
  target := "log_format"
  default := some (.text Log.standardTemplate)
  conversion := some .text
  help := .text "Log format for Python logger."

def storeFlag : Flag where
  names := ["--store"]
  target := "store"
  default := some (.text propertiesName)
  conversion := some .text
  choices := some (.among [.text environmentName, .text propertiesName])
  help := .text ("Default: properties.  Configuration store receiving the proxy properties.  "
    ++ "\"environ\" writes into the process environment.")

def addressFlag : Flag :=
  switch ["--from-address"] "from_address"
    ("Default: False. Treat PROXY as a proxy listen address, e.g. :8899 or 0.0.0.0:8899, and "
      ++ "inject a routable HOST:PORT derived from it.")

def shellFlag : Flag :=
  switch ["--shell"] "shell"
    ("Default: False. After a successful injection, also print shell exports routing terminal "
      ++ "commands through the same proxy.")

def flags : List Flag :=
  [proxyFlag, versionFlag, levelFlag, fileFlag, formatFlag, storeFlag, addressFlag, shellFlag]

def programName : String := "agent-proxy"

def description : String := "agentproxy v" ++ Version.current

def parser : Parser := .ofFlags programName description flags

end ProxyInjector.Program
