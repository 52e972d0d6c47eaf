import OrgCli.Proofs.ToolFailure
import OrgCli.Proofs.Protocol
import OrgCli.Proofs.Serial
import OrgCli.Proofs.Encoding
import OrgCli.Proofs.Session
import OrgCli.Proofs.Uris
import OrgCli.Proofs.Argv
import OrgCli.Proofs.Content
import OrgCli.Proofs.Properties
import OrgCli.Proofs.ServerErrors
import OrgCli.Proofs.ExitCode
import OrgCli.Proofs.Layout
import OrgCli.Proofs.Schema
import OrgCli.Proofs.Duplex
import OrgCli.Proofs.Capacity
import OrgCli.Proofs.Hang
import OrgCli.Proofs.Lag
import OrgCli.Proofs.Teardown
import OrgCli.Proofs.Echo
