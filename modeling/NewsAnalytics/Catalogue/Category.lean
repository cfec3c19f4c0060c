import NewsAnalytics.Catalogue.Entry

/-!
# Categories

The service sorts articles into categories. They form a tree of two
levels: `hierarchy` lists the parents with the numbers of their children,
and no child is itself a parent. The tree with names is built from the two
tables; a number without a name would be left out.
-/

namespace NewsAnalytics.Catalogue

/-- All categories. -/
def categories : List Entry :=
  [⟨280, "All"⟩, ⟨285, "Pre-Viral"⟩, ⟨2, "News"⟩, ⟨20, "Politics"⟩,
   ⟨3, "Entertainment"⟩, ⟨652, "Teens"⟩, ⟨4, "Culture"⟩, ⟨5, "Fashion"⟩, ⟨6, "Arts"⟩,
   ⟨7, "Design"⟩, ⟨8, "Movies"⟩, ⟨9, "Music"⟩, ⟨10, "Gaming"⟩, ⟨11, "Ideas"⟩,
   ⟨12, "Life"⟩, ⟨13, "Health"⟩, ⟨15, "Food and Drink"⟩, ⟨16, "For Him"⟩,
   ⟨17, "For Her"⟩, ⟨18, "Fun"⟩, ⟨19, "Opinion"⟩, ⟨21, "Economics"⟩, ⟨22, "Mayhem"⟩,
   ⟨23, "Left"⟩, ⟨24, "Right"⟩, ⟨25, "Tech"⟩, ⟨537, "Cloud Computing"⟩,
   ⟨26, "Science"⟩, ⟨27, "Environment"⟩, ⟨14, "Psychology"⟩, ⟨28, "Business"⟩,
   ⟨29, "The Wire"⟩, ⟨30, "Startups"⟩, ⟨31, "Strategy"⟩, ⟨429, "Media"⟩,
   ⟨32, "Sports"⟩, ⟨33, "Soccer"⟩, ⟨34, "Rugby"⟩, ⟨35, "Golf"⟩, ⟨36, "Motorsports"⟩,
   ⟨37, "Cycling"⟩, ⟨38, "Tennis"⟩, ⟨39, "American Football"⟩, ⟨40, "Basketball"⟩,
   ⟨41, "Cricket"⟩, ⟨42, "Track"⟩, ⟨43, "Baseball"⟩, ⟨44, "Aus Football"⟩,
   ⟨430, "Ice Hockey"⟩, ⟨286, "YouTube"⟩, ⟨432, "Mining"⟩, ⟨433, "Energy"⟩,
   ⟨434, "Parenting"⟩, ⟨435, "Fathers"⟩, ⟨436, "Mothers"⟩, ⟨437, "Homemaking"⟩,
   ⟨438, "Reddit"⟩, ⟨441, "Careers"⟩, ⟨442, "Commodities"⟩, ⟨443, "Travel"⟩,
   ⟨444, "Influencers"⟩, ⟨476, "Storyful"⟩, ⟨446, "Personal Finance"⟩,
   ⟨447, "Marketing"⟩, ⟨448, "Retirement"⟩, ⟨449, "Markets"⟩, ⟨450, "Currencies"⟩,
   ⟨451, "Stocks"⟩, ⟨452, "Financial Products"⟩, ⟨453, "Funds"⟩,
   ⟨454, "Rates and Bonds"⟩, ⟨455, "Agricultural Goods"⟩, ⟨456, "Indexes"⟩,
   ⟨457, "Private Equity"⟩, ⟨458, "Emerging Markets"⟩, ⟨459, "Industries"⟩,
   ⟨473, "Autos"⟩, ⟨538, "Biotech"⟩, ⟨472, "Defence"⟩, ⟨463, "Finance"⟩,
   ⟨461, "Health Care"⟩, ⟨464, "Transport"⟩, ⟨475, "Education"⟩, ⟨540, "Beauty"⟩,
   ⟨621, "Partners"⟩, ⟨469, "Accounting"⟩, ⟨470, "Electronics"⟩, ⟨462, "Insurance"⟩,
   ⟨467, "Legal"⟩, ⟨466, "Luxury"⟩, ⟨460, "Oil and Gas"⟩, ⟨474, "Real Estate"⟩,
   ⟨539, "Renewable Energy"⟩, ⟨465, "Retail"⟩, ⟨471, "Tech Industry"⟩,
   ⟨468, "Telecom"⟩, ⟨622, "Wochit"⟩, ⟨623, "Gadgets"⟩, ⟨624, "Wireless and Mobile"⟩,
   ⟨625, "Cyber Security"⟩, ⟨626, "Data Storage"⟩, ⟨627, "Networking"⟩,
   ⟨628, "Software"⟩, ⟨629, "Hardware"⟩, ⟨633, "Latino"⟩, ⟨636, "Aging"⟩,
   ⟨638, "World Cup 2014"⟩, ⟨651, "Quiz"⟩, ⟨653, "Action Sports"⟩, ⟨655, "TV"⟩,
   ⟨661, "Weather"⟩, ⟨663, "Anime"⟩, ⟨664, "Horse Racing"⟩, ⟨665, "Boat Racing"⟩,
   ⟨667, "Brands"⟩, ⟨668, "Events"⟩, ⟨669, "K-POP"⟩, ⟨670, "Pets"⟩,
   ⟨671, "Martial Arts"⟩, ⟨685, "IInternational"⟩, ⟨686, "Society"⟩, ⟨687, "People"⟩,
   ⟨689, "Curation"⟩, ⟨690, "Viral"⟩, ⟨691, "Social"⟩, ⟨692, "App"⟩, ⟨693, "MANGA"⟩,
   ⟨694, "DIY"⟩, ⟨696, "Development"⟩, ⟨697, "Fitness"⟩, ⟨699, "Celebrity"⟩,
   ⟨750, "Great Outdoors"⟩, ⟨751, "U.S. Election 2016"⟩, ⟨752, "Combat Sports"⟩,
   ⟨753, "Gaelic Games"⟩, ⟨755, "Canadian Election"⟩, ⟨756, "Religion"⟩]

/-- The parents, each with its children in order. -/
def hierarchy : List (Nat × List Nat) :=
  [(280, []), (285, [689, 691, 690, 438]), (286, []), (751, []), (755, []),
   (2, [687, 686, 668, 20, 661]), (3, [669, 699, 652, 655, 663]),
   (4, [6, 7, 5, 10, 11, 693, 8, 9, 756]),
   (12, [636, 540, 694, 475, 435, 697, 15, 17, 16, 13, 437, 633, 436, 434, 670, 443]),
   (18, []), (19, [21, 23, 24, 22]),
   (25, [692, 537, 625, 626, 623, 629, 627, 628, 624, 696]), (26, [27, 14]),
   (28, [441, 447, 446, 448, 30, 31, 29]),
   (459, [469, 473, 538, 472, 470, 433, 463, 461, 462, 467, 466, 429, 460, 474, 539, 465,
     471, 468, 464]),
   (449, [455, 442, 450, 458, 452, 453, 456, 432, 457, 454, 451]),
   (32, [653, 39, 44, 43, 40, 665, 752, 41, 37, 753, 35, 750, 664, 430, 671, 36, 34, 33,
     38, 42, 638]),
   (667, [])]

/-- The name of a category. -/
def categoryName? (id : Nat) : Option String := nameOf? categories id

/-- The category of a name. -/
def category? (name : String) : Option Entry := named? categories name

/-- A parent category with its children. -/
structure CategoryNode where
  entry : Entry
  children : List Entry

/-- The category of a number. -/
def categoryWithId? (id : Nat) : Option Entry :=
  (categoryName? id).map fun name => ⟨id, name⟩

/-- The tree of categories, in the order of the tables. -/
def categoryTree : List CategoryNode :=
  hierarchy.filterMap fun (parent, children) =>
    (categoryWithId? parent).map fun entry => ⟨entry, children.filterMap categoryWithId?⟩

end NewsAnalytics.Catalogue
