/-! The storefront that traffic is generated for: its pages, its visitors' browsers, and the channels
that visits come from. -/
namespace Clickstream.Storefront

structure Page where
  path : String
  title : String

/-- A browser on a device. -/
structure Agent where
  userAgent : String
  screenResolution : String

/-- Where a visit comes from: a referrer, and the query of a paid campaign. -/
structure Channel where
  referrers : Array String
  queries : Array String

def account : String := "GA4CT-1"

def host : String := "https://www.example.com"

/-- The pages that can be visited and referred from. -/
def pages : Array Page := #[
  ⟨"/", "Storefront | We Sell Products | Example"⟩,
  ⟨"/collection", "Product Collection | Example"⟩,
  ⟨"/product-a", "Product A | Example"⟩,
  ⟨"/product-b", "Product B | Example"⟩,
  ⟨"/product-c", "Product C | Example"⟩,
  ⟨"/cart", "Your Cart | Example"⟩,
  ⟨"/contact", "Contact Us | Example"⟩,
  ⟨"/checkout", "Checkout | Example"⟩]

/-- Where a purchase ends. -/
def confirmation : Page := ⟨"/order-confirmation", "Order Confirmation | Example"⟩

/-- Where a submitted form ends. -/
def thankYou : Page := ⟨"/contact-thank-you", "Thank You For Contacting Us | Example"⟩

private def webKit (system rest : String) : String :=
  "Mozilla/5.0 (" ++ system ++ ") AppleWebKit/" ++ rest

/-- A desktop, a telephone and two tablets or telephones of another make. -/
def agents : Array Agent := #[
  ⟨webKit "Windows NT 10.0; Win64; x64"
    "537.36 (KHTML, like Gecko) Chrome/126.0.0.0 Safari/537.36", "1920x1080"⟩,
  ⟨webKit "Linux; Android 13; Pixel 7"
    "537.36 (KHTML, like Gecko) Chrome/116.0.0.0 Mobile Safari/537.36", "412x915"⟩,
  ⟨webKit "iPad; CPU OS 17_5_1 like Mac OS X"
    "605.1.15 (KHTML, like Gecko) Version/17.5 Mobile/15E148 Safari/604.1", "1024x1366"⟩,
  ⟨webKit "iPhone; CPU iPhone OS 17_5_1 like Mac OS X"
    "605.1.15 (KHTML, like Gecko) Version/17.5 Mobile/15E148 Safari/604.1", "390x844"⟩]

/-- Direct visits, organic ones by search, social network, mail and referral, and paid ones by search
and social network. -/
def channels : Array Channel := #[
  ⟨#[""], #[""]⟩,
  ⟨#["https://www.google.com/", "https://www.bing.com/", "https://www.duckduckgo.com/"], #[""]⟩,
  ⟨#["https://www.facebook.com/", "https://www.instagram.com/", "https://www.pinterest.com/",
    "https://www.reddit.com/", "https://www.youtube.com/"], #[""]⟩,
  ⟨#["https://mail.google.com/", "https://outlook.live.com/", "https://mail.yahoo.com/"], #[""]⟩,
  ⟨#["https://www.referrer1.com/", "https://www.referrer2.com/", "https://www.referrer3.com/"],
    #[""]⟩,
  ⟨#["https://www.google.com/"], #[
    "?utm_source=google&utm_medium=cpc&utm_campaign=PMax%20-%20All%20Products",
    "?utm_source=google&utm_medium=cpc&utm_campaign=Search%20-%20Brand",
    "?utm_source=google&utm_medium=cpc&utm_campaign=Search%20-%20Non-Brand"]⟩,
  ⟨#["https://www.facebook.com/"], #[
    "?utm_source=facebook&utm_medium=paid+social&utm_campaign=Prospecting%20-%20Video",
    "?utm_source=facebook&utm_medium=paid+social&utm_campaign=Remarketing%20-%20All%20Website%20Visitors"]⟩]

/-- What happens in a visit. -/
inductive Action where
  | pageView
  | click
  | formSubmission
  | purchase
  deriving DecidableEq

def Action.name : Action → String
  | .pageView => "page_view"
  | .click => "cta_click"
  | .formSubmission => "form_submission"
  | .purchase => "purchase"

def actions : Array Action := #[.pageView, .click, .formSubmission, .purchase]

end Clickstream.Storefront
