import LaunchKit.CallLog.Records
import LaunchKit.ErrorTally
import LaunchKit.Settings

/-!
# The handlers of a server

A server stands between its clients and the tools. Every call passes the error tally, which is
outermost, and the call log, once among all messages and once among the calls; behind them the tools
answer, of which nothing is known here.

## Main definitions

* `Server`: the handlers of a server.
* `Server.create`: the server for given settings.
* `Server.handle`: one call through all handlers.
* `Server.checkHealth`: the answer to whether a server is healthy.
-/
namespace LaunchKit

/-- The handlers before the tools: whether the error tally shows traces, and the call log. -/
structure Server where
  includeTrace : Bool
  log : CallLog

namespace Server

/-- A record of the server. -/
def record (message : Text) : Record := .saying .debug .server message

/-- The server for given settings. It takes the threshold of slow calls as a floating point number,
which a whole number may be too large for. -/
def create (settings : Settings) : Report Server :=
  match Binary64.ofInt? settings.slowThresholdMs with
  | none => .ofFailure .tooLarge
  | some threshold =>
    let log : CallLog := { payloads := settings.logPayloads, slowThreshold := .real threshold }
    (Report.ofResult ⟨settings.includeTraceback, log⟩).after
      [record ("Launcher MCP server created (transport=" ++ settings.transport ++ ")".toList)]

/-- A call through all handlers. The call log reads the clock around the message and around the
call. -/
def handle [Room] {m : Type → Type} [Monad m] (server : Server) (logger : Logger)
    (messageTiming callTiming : Timing) (call : ToolCall) (next : ToolCall → m (Report Value)) :
    StateT ErrorTally m (Report Value) :=
  ErrorTally.message server.includeTrace logger (some toolCallMethod)
    (server.log.message messageTiming (some toolCallMethod)
      (server.log.call logger callTiming call fun call => liftM (next call)))

/-- The answer to a client that asks whether the server is healthy. -/
def checkHealth (client : Option Text) : Report Text :=
  (Report.ofResult "OK".toList).after [record ("Health check from " ++ client.getD "unknown")]

end Server
end LaunchKit
