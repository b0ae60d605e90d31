import WeblogDesk.Client
import WeblogDesk.Command
import WeblogDesk.Desk.Basic
import WeblogDesk.Main
import WeblogDesk.Page.Members
import WeblogDesk.Page.Planets
import WeblogDesk.Settings.Basic
import WeblogDesk.Proofs.Endpoint.Containment
import WeblogDesk.Proofs.Endpoint.Identity
import WeblogDesk.Proofs.Page.Messages
import WeblogDesk.Proofs.Page.Roles
import WeblogDesk.Proofs.Planets.Runs
import WeblogDesk.Proofs.Page.Changes
import WeblogDesk.Proofs.Planets.Confirmation
import WeblogDesk.Proofs.Planets.Table
import WeblogDesk.Proofs.Page.Directory
import WeblogDesk.Proofs.Page.Agreement
import WeblogDesk.Proofs.Page.UserChoice
import WeblogDesk.Proofs.Desk.Runs
import WeblogDesk.Proofs.Desk.Exit
import WeblogDesk.Proofs.Desk.Expiry
import WeblogDesk.Proofs.Json.Members
import WeblogDesk.Proofs.Json.Numbers
import WeblogDesk.Proofs.Json.Values
import WeblogDesk.Proofs.Json.Normal
import WeblogDesk.Proofs.Planets.Json
import WeblogDesk.Proofs.Json.Maps
import WeblogDesk.Proofs.Page.Requests
import WeblogDesk.Proofs.Endpoint.Segments
import WeblogDesk.Proofs.Page.Frames
import WeblogDesk.Proofs.Page.DefaultPick
import WeblogDesk.Proofs.Desk.Additions
import WeblogDesk.Proofs.Page.Reading
import WeblogDesk.Proofs.Desk.RoleChanges
import WeblogDesk.Proofs.Page.Invitations
import WeblogDesk.Proofs.Desk.Deletions
import WeblogDesk.Proofs.Payload
import WeblogDesk.Proofs.Planets.Acceptance
import WeblogDesk.Proofs.Settings.Effective
import WeblogDesk.Proofs.Settings.Refresh
import WeblogDesk.Proofs.Command
