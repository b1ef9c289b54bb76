import Bearer.Scope.Basic
import Bearer.Text.Quoted

/-!
# The documented scopes

Twitch documents a fixed list of scopes, each with a description. A scope outside that list is
still a scope: it is shown by its text instead of its name and has no description.

* `isKnown_of_mem_known`: what is listed is known.
-/
namespace Bearer.Scope

/-- An entry of the list of documented scopes. -/
structure Entry where
  /-- The name of the constant. -/
  name : String
  /-- The text of the scope. -/
  text : String
  /-- What the scope permits. -/
  description : String

/-- The documented scopes in their order. -/
def catalogue : List Entry :=
  [⟨"ANALYTICS_READ_EXTENSIONS", "analytics:read:extensions",
     "View analytics data for the Twitch Extensions owned by the authenticated account."⟩,
   ⟨"ANALYTICS_READ_GAMES", "analytics:read:games",
     "View analytics data for the games owned by the authenticated account."⟩,
   ⟨"BITS_READ", "bits:read",
     "View Bits information for a channel."⟩,
   ⟨"CHANNEL_BOT", "channel:bot",
     "Joins your channel's chatroom as a bot user, and perform chat-related actions as " ++
     "that user."⟩,
   ⟨"CHANNEL_EDIT_COMMERCIAL", "channel:edit:commercial",
     "Run commercials on a channel."⟩,
   ⟨"CHANNEL_MANAGE_BROADCAST", "channel:manage:broadcast",
     "Manage a channel's broadcast configuration, including updating channel " ++
     "configuration and managing stream markers and stream tags."⟩,
   ⟨"CHANNEL_MANAGE_EXTENSIONS", "channel:manage:extensions",
     "Manage a channel's Extension configuration, including activating Extensions."⟩,
   ⟨"CHANNEL_MANAGE_POLLS", "channel:manage:polls",
     "Manage a channel's polls."⟩,
   ⟨"CHANNEL_MANAGE_PREDICTIONS", "channel:manage:predictions",
     "Manage of channel's Channel Points Predictions."⟩,
   ⟨"CHANNEL_MANAGE_RAIDS", "channel:manage:raids",
     "Manage a channel raiding another channel."⟩,
   ⟨"CHANNEL_MANAGE_REDEMPTIONS", "channel:manage:redemptions",
     "Manage Channel Points custom rewards and their redemptions on a channel."⟩,
   ⟨"CHANNEL_MANAGE_VIDEOS", "channel:manage:videos",
     "Manage a channel's videos, including deleting videos."⟩,
   ⟨"CHANNEL_MANAGE_VIPS", "channel:manage:vips",
     "Add or remove the VIP role from users in your channel."⟩,
   ⟨"CHANNEL_MODERATE", "channel:moderate",
     "Perform moderation actions in a channel. The user requesting the scope must be a " ++
     "moderator in the channel."⟩,
   ⟨"CHANNEL_READ_EDITORS", "channel:read:editors",
     "View a list of users with the editor role for a channel."⟩,
   ⟨"CHANNEL_READ_GOALS", "channel:read:goals",
     "View Creator Goals for a channel."⟩,
   ⟨"CHANNEL_READ_HYPE_TRAIN", "channel:read:hype_train",
     "View Hype Train information for a channel."⟩,
   ⟨"CHANNEL_READ_POLLS", "channel:read:polls",
     "View a channel's polls."⟩,
   ⟨"CHANNEL_READ_PREDICTIONS", "channel:read:predictions",
     "View a channel's Channel Points Predictions."⟩,
   ⟨"CHANNEL_READ_REDEMPTIONS", "channel:read:redemptions",
     "View Channel Points custom rewards and their redemptions on a channel."⟩,
   ⟨"CHANNEL_READ_STREAM_KEY", "channel:read:stream_key",
     "View an authorized user's stream key."⟩,
   ⟨"CHANNEL_READ_SUBSCRIPTIONS", "channel:read:subscriptions",
     "View a list of all subscribers to a channel and check if a user is subscribed to " ++
     "a channel."⟩,
   ⟨"CHANNEL_READ_VIPS", "channel:read:vips",
     "Read the list of VIPs in your channel."⟩,
   ⟨"CHANNEL_SUBSCRIPTIONS", "channel_subscriptions",
     "[DEPRECATED] Read all subscribers to your channel."⟩,
   ⟨"CHAT_EDIT", "chat:edit",
     "Send live stream chat and rooms messages."⟩,
   ⟨"CHAT_READ", "chat:read",
     "View live stream chat and rooms messages."⟩,
   ⟨"CLIPS_EDIT", "clips:edit",
     "Manage Clips for a channel."⟩,
   ⟨"MODERATION_READ", "moderation:read",
     "View a channel's moderation data including Moderators, Bans, Timeouts, and " ++
     "Automod settings."⟩,
   ⟨"MODERATOR_MANAGE_ANNOUNCEMENTS", "moderator:manage:announcements",
     "Send announcements in channels where you have the moderator role."⟩,
   ⟨"MODERATOR_MANAGE_BANNED_USERS", "moderator:manage:banned_users",
     "Ban and unban users."⟩,
   ⟨"MODERATOR_MANAGE_CHAT_MESSAGES", "moderator:manage:chat_messages",
     "Delete chat messages in channels where you have the moderator role."⟩,
   ⟨"MODERATOR_READ_CHATTERS", "moderator:read:chatters",
     "View the chatters in a broadcaster's chat room."⟩,
   ⟨"MODERATOR_READ_FOLLOWERS", "moderator:read:followers",
     "Read the followers of a broadcaster."⟩,
   ⟨"USER_BOT", "user:bot",
     "Join a specified chat channel as your user and appear as a bot, and perform " ++
     "chat-related actions as your user."⟩,
   ⟨"USER_EDIT", "user:edit",
     "Manage a user object."⟩,
   ⟨"USER_EDIT_BROADCAST", "user:edit:broadcast",
     "Edit your channel's broadcast configuration, including extension configuration. " ++
     "(This scope implies user:read:broadcast capability.)"⟩,
   ⟨"USER_EDIT_FOLLOWS", "user:edit:follows",
     "Edit a user's follows."⟩,
   ⟨"USER_MANAGE_BLOCKED_USERS", "user:manage:blocked_users",
     "Manage the block list of a user."⟩,
   ⟨"USER_MANAGE_WHISPERS", "user:manage:whispers",
     "Read whispers that you send and receive, and send whispers on your behalf."⟩,
   ⟨"USER_READ_BLOCKED_USERS", "user:read:blocked_users",
     "View the block list of a user."⟩,
   ⟨"USER_READ_BROADCAST", "user:read:broadcast",
     "View a user's broadcasting configuration, including Extension configurations."⟩,
   ⟨"USER_READ_CHAT", "user:read:chat",
     "Receive chatroom messages and informational notifications relating to a " ++
     "channel's chatroom."⟩,
   ⟨"USER_READ_EMAIL", "user:read:email",
     "Read an authorized user's email address."⟩,
   ⟨"USER_READ_FOLLOWS", "user:read:follows",
     "View the list of channels a user follows."⟩,
   ⟨"USER_READ_SUBSCRIPTIONS", "user:read:subscriptions",
     "View if an authorized user is subscribed to specific channels."⟩,
   ⟨"USER_WRITE_CHAT", "user:write:chat",
     "Send chat messages to a chatroom."⟩,
   ⟨"WHISPERS_EDIT", "whispers:edit",
     "Send whisper messages."⟩,
   ⟨"WHISPERS_READ", "whispers:read",
     "View your whisper messages."⟩]

/-- The scopes that are documented. -/
def known : List Scope :=
  catalogue.map fun e => ⟨e.text⟩

/-- The entry of a scope. -/
def entry? (s : Scope) : Option Entry :=
  catalogue.find? fun e => e.text = s.text

/-- Whether the scope is documented. -/
def isKnown (s : Scope) : Bool :=
  s.entry?.isSome

theorem isKnown_of_mem_known {s : Scope} (h : s ∈ known) : s.isKnown = true := by
  obtain ⟨e, he, rfl⟩ := List.mem_map.1 h
  exact List.find?_isSome.2 ⟨e, he, by simp⟩

/-- What the scope permits; empty for one that is not documented. -/
def description (s : Scope) : String :=
  (s.entry?.map (·.description)).getD ""

/-- The scope by its constant, or else by its quoted text. -/
def describe (s : Scope) : String :=
  match s.entry? with
  | some e => "Scope." ++ e.name
  | none => "Scope(" ++ Text.quoted s.text ++ ")"

/-- The documented scope with the given constant. -/
def ofName? (name : String) : Option Scope :=
  (catalogue.find? fun e => e.name = name).map fun e => ⟨e.text⟩

/-- How a scope value came about: made anew from its text, or through the list, which hands out
one shared value for each documented scope. -/
inductive Origin where
  | fresh
  | listed
deriving DecidableEq

/-- Whether a scope that came about so is the shared value of the list. -/
def isShared (o : Origin) (s : Scope) : Bool :=
  o = .listed && s.isKnown

end Bearer.Scope
