import Notely.Lib.Trace
import Notely.Lib.DocStore
import Notely.Lib.Navigator
import Notely.Lib.TextEditing
import Notely.Lib.Pattern
import Notely.Models.Note
import Notely.Screens.Writers
import Notely.Store.Steps
import Notely.Store.Shelf
import Notely.Store.Isolation
import Notely.Store.Clients
import Notely.Store.Documents
import Notely.Store.Texts
import Notely.Store.FavoriteStatus
import Notely.Store.Toggle
import Notely.Store.Announced
import Notely.Store.LastWrite
import Notely.Editing.NoteTaking
import Notely.Editing.NoteEditing
import Notely.Editing.Reopen
import Notely.Editing.BlankNotes
import Notely.Editing.Taps
import Notely.Session.Provider
import Notely.Session.App
import Notely.Session.Entry
import Notely.Session.SignOut
import Notely.Session.Email
import Notely.Session.Blank
import Notely.Session.Forms
import Notely.Session.FormPages
import Notely.Screens.NotesList
import Notely.Devices.Device
import Notely.Devices.World
import Notely.Devices.Accounts
import Notely.Devices.Saved
import Notely.Devices.Pages
import Notely.Devices.Sessions
