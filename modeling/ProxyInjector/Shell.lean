import ProxyInjector.Descriptor

/-!
# Shell exports

A script that routes the commands of a terminal through a proxy: it sets the usual variables to
the proxy's address, exempts the machine itself, and defines an alias that clears the same
variables again.
-/

namespace ProxyInjector.Shell

/-- the variables that name the proxy -/
def proxyVariables : List String := ["HTTP_PROXY", "HTTPS_PROXY", "ALL_PROXY"]

/-- the variable that names the exempt hosts -/
def exemptVariable : String := "NO_PROXY"

def exportLine (name value : String) : String := "export " ++ name ++ "=" ++ value

/-- the assignments of the script, in order -/
def assignments (d : Descriptor) : List (String × String) :=
  proxyVariables.map (·, d.url) ++ [(exemptVariable, ",".intercalate Address.localHosts)]

def aliasLine : String :=
  "alias unproxy='unset " ++ " ".intercalate (proxyVariables ++ [exemptVariable]) ++ "'"

def lines (d : Descriptor) : List String :=
  (assignments d).map (fun a => exportLine a.1 a.2)
    ++ ["", "# Run 'unproxy' to clear these variables", aliasLine]

def script (d : Descriptor) : String := "\n".intercalate (lines d) ++ "\n"

end ProxyInjector.Shell
