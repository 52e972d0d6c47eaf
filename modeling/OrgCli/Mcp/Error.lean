import OrgCli.Json

/-!
# `OrgCli.Mcp.Error`: the MCP client errors

`McpError` of `src/mcp/error.rs`, with its `Display` text and its accessors.
-/

set_option autoImplicit false

namespace OrgCli.Mcp

/-- `McpError`: a JSON-RPC error from the server, a transport failure, a failed spawn, or a
protocol violation. -/
inductive McpError where
  | toolError (code : Int64) (message : String) (data : Json)
  | transport (message : String)
  | spawn (message : String)
  | protocol (message : String)
  deriving DecidableEq

namespace McpError

/-- The `Display` text. -/
def toString : McpError → String
  | toolError code message _ => s!"tool error {code}: {message}"
  | transport message => s!"transport error: {message}"
  | spawn message => s!"spawn error: {message}"
  | protocol message => s!"protocol error: {message}"

/-- `McpError::exit_code`. -/
def exitCode : McpError → Int32
  | toolError _ _ _ => 1
  | transport _ => 3
  | spawn _ => 4
  | protocol _ => 3

/-- `McpError::kind_str`. -/
def kindStr : McpError → String
  | toolError _ _ _ => "tool"
  | transport _ | spawn _ | protocol _ => "transport"

/-- `McpError::rpc_code`. -/
def rpcCode : McpError → Int64
  | toolError code _ _ => code
  | _ => -1

/-- `McpError::rpc_data`. -/
def rpcData : McpError → Json
  | toolError _ _ data => data
  | _ => .null

end McpError

end OrgCli.Mcp
