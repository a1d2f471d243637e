import Pressroom.Service.Run
import Pressroom.Settings.Workers
import Pressroom.TypeScript.Command
import Pressroom.Main
import Pressroom.Proofs.Service.Address
import Pressroom.Proofs.Service.Deletion
import Pressroom.Proofs.Service.FieldLimit
import Pressroom.Proofs.Service.Refusal
import Pressroom.Proofs.Access.TokenOwner
import Pressroom.Proofs.Access.Forgery
import Pressroom.Proofs.Record.RoundTrip
import Pressroom.Proofs.Service.Lifecycle
import Pressroom.Proofs.Access.NewAccount
import Pressroom.Proofs.Access.Administrator
import Pressroom.Proofs.Access.Logout
import Pressroom.Proofs.Access.Revocation
import Pressroom.Proofs.Access.FailedLogin
import Pressroom.Proofs.Access.Secrecy
import Pressroom.Proofs.Service.PostLists
import Pressroom.Proofs.Service.Validity
import Pressroom.Proofs.Service.Content
import Pressroom.Proofs.Access.SessionOwner
import Pressroom.Proofs.Service.Migrated
import Pressroom.Proofs.Service.Restart
import Pressroom.Proofs.Access.Resolution
import Pressroom.Proofs.Service.UserChange
import Pressroom.Proofs.Service.Failure
import Pressroom.Proofs.Service.NewPassword
import Pressroom.Proofs.Service.Listing
import Pressroom.Proofs.Service.Times
import Pressroom.Proofs.Record.FinalZ
import Pressroom.Proofs.Record.Decoding
import Pressroom.Proofs.Record.Checked
import Pressroom.Proofs.Check.Email
import Pressroom.Proofs.Permission.Registry
import Pressroom.Proofs.Access.Granted
import Pressroom.Proofs.Permission.Ensure
import Pressroom.Proofs.Service.PostChange
import Pressroom.Proofs.Service.EmailCheck
import Pressroom.Proofs.Access.IssuedKey
import Pressroom.Proofs.Service.PasswordLog
import Pressroom.Proofs.Service.Creation
import Pressroom.Proofs.TypeScript.Interface
import Pressroom.Proofs.Text.Projection
